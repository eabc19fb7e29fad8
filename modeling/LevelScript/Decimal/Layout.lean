import LevelScript.Decimal.Shortest

namespace LevelScript.Decimal

/-!
# Numbers as text

A number is written with its shortest digits. A layout decides when an exponent is
written instead of leading or trailing zeros and whether a whole number shows a point.
-/

/-- How the shortest digits of a number are arranged. -/
structure Layout where
  /-- Exponents from here on are written with an exponent mark. -/
  exponentFrom : Option Int
  /-- Exponents below this one are written with an exponent mark. -/
  exponentBelow : Option Int
  /-- A number without fraction digits ends in `.0`. -/
  fractionKept : Bool
deriving Repr, DecidableEq

namespace Layout

/-- All digits are written out and a whole number has no point. -/
def plain : Layout where
  exponentFrom := none
  exponentBelow := none
  fractionKept := false

/-- Records of a run write very large and very small numbers with an exponent. -/
def record : Layout where
  exponentFrom := some 16
  exponentBelow := some (-4)
  fractionKept := true

/-- The layout writes a number of the given decimal exponent with an exponent mark. -/
def marksExponent
    (layout : Layout)
    (exponent : Int) :
    Bool :=
  layout.exponentFrom.any (· ≤ exponent) || layout.exponentBelow.any (exponent < ·)

/-- Digits with the point written `exponent + 1` places after the first one. -/
def positional
    (layout : Layout)
    (digits : List Char)
    (exponent : Int) :
    List Char :=
  if exponent < 0 then
    '0' :: '.' :: (List.replicate (-exponent - 1).toNat '0' ++ digits)
  else
    let whole := exponent.toNat + 1
    if whole < digits.length then
      digits.take whole ++ '.' :: digits.drop whole
    else
      digits ++ List.replicate (whole - digits.length) '0' ++
        (if layout.fractionKept then ['.', '0'] else [])

/-- Digits with the point after the first one, followed by the exponent. -/
def scientific
    (digits : List Char)
    (exponent : Int) :
    List Char :=
  let fraction := digits.drop 1
  digits.take 1 ++ (if fraction.isEmpty then [] else '.' :: fraction) ++
    'e' :: (toString exponent).toList

/-- The characters of a finite magnitude. -/
def magnitudeText
    (layout : Layout)
    (magnitude : Nat) :
    List Char :=
  if magnitude = 0 then
    layout.positional ['0'] 0
  else
    let shortest := shortest magnitude
    let digits := Nat.toDigits 10 shortest.digits
    let exponent : Int := (shortest.place + digits.length : Nat) - (finestPlace + 1 : Nat)
    if layout.marksExponent exponent then
      scientific digits exponent
    else
      layout.positional digits exponent

/-- The characters of a number; only numbers that are no result have none but letters. -/
def characters
    (layout : Layout)
    (value : Float) :
    List Char :=
  let magnitude := Binary64.magnitude value
  if Binary64.infinite < magnitude then
    "NaN".toList
  else
    let unsigned :=
      if magnitude = Binary64.infinite then
        "inf".toList
      else
        layout.magnitudeText magnitude
    if Binary64.isNegative value then '-' :: unsigned else unsigned

/-- The text of a number. -/
def text
    (layout : Layout)
    (value : Float) :
    String :=
  String.ofList (layout.characters value)

end Layout

/-- A number with all its digits written out, as level sources and messages show it. -/
def plainText
    (value : Float) :
    String :=
  Layout.plain.text value

end LevelScript.Decimal
