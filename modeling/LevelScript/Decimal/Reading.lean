import LevelScript.Decimal.Binary64

namespace LevelScript.Decimal

/-!
# Reading numbers

A written decimal stands for an exact fraction, which is rounded once, to the nearest
value. Only a magnitude beyond the largest finite value is read as infinity.
-/

/-- The number nearest to `digits / 10 ^ places`, infinite when none is near. -/
def ofFraction
    (negative : Bool)
    (digits places : Nat) :
    Float :=
  Binary64.ofMagnitude negative
    (min (Binary64.nearest digits (Nat.pow 10 places)) Binary64.infinite)

/-- The number a string of ASCII digits counts. -/
def natural
    (digits : List Char) :
    Nat :=
  Nat.ofDigitChars 10 digits 0

/-- The number written with the given digits before and after the point. -/
def ofDigits
    (negative : Bool)
    (whole fraction : List Char) :
    Float :=
  ofFraction negative (natural (whole ++ fraction)) fraction.length

/-- No number with so large a decimal exponent is finite. -/
def largestExponent : Int :=
  400

/-- A number with so small a decimal exponent is read as zero. -/
def smallestExponent : Int :=
  -400

/-- The number written with the given digits and a power of ten. -/
def ofScientific
    (negative : Bool)
    (whole fraction : List Char)
    (exponent : Int) :
    Float :=
  let digits := natural (whole ++ fraction)
  let power := exponent - fraction.length
  let order := power + (Nat.toDigits 10 digits).length
  if digits = 0 ∨ order < smallestExponent then
    Binary64.ofMagnitude negative 0
  else if largestExponent < order then
    Binary64.ofMagnitude negative Binary64.infinite
  else if power < 0 then
    ofFraction negative digits (-power).toNat
  else
    ofFraction negative (digits * Nat.pow 10 power.toNat) 0

/-- A sign in front of a number, and what follows it. -/
def takeSign :
    List Char →
    Bool × List Char
  | '-' :: rest => (true, rest)
  | '+' :: rest => (false, rest)
  | characters => (false, characters)

/-- A whole number with an optional sign. -/
def integer?
    (characters : List Char) :
    Option Int :=
  let (negative, digits) := takeSign characters
  if digits ≠ [] ∧ digits.all Char.isDigit then
    let size : Int := natural digits
    some (if negative then -size else size)
  else
    none

/-- The exponent behind its mark, zero where there is none. -/
def exponent? :
    List Char →
    Option Int
  | [] => some 0
  | mark :: rest => if mark = 'e' ∨ mark = 'E' then integer? rest else none

/-- An unsigned decimal: digits, a fraction and an exponent, each of them optional. -/
def unsigned?
    (negative : Bool)
    (characters : List Char) :
    Option Float :=
  let whole := characters.takeWhile Char.isDigit
  let afterWhole := characters.dropWhile Char.isDigit
  let (fraction, afterFraction) :=
    match afterWhole with
    | '.' :: rest => (rest.takeWhile Char.isDigit, rest.dropWhile Char.isDigit)
    | rest => ([], rest)
  if whole = [] ∧ fraction = [] then
    none
  else
    (exponent? afterFraction).map (ofScientific negative whole fraction)

/-- A number in any usual notation, names of infinity and of undefined results included. -/
def parse?
    (text : String) :
    Option Float :=
  let (negative, characters) := takeSign text.toList
  match String.ofList (characters.map Char.toLower) with
  | "nan" => some (Float.ofBits 0x7ff8000000000000)
  | "inf" => some (Binary64.ofMagnitude negative Binary64.infinite)
  | "infinity" => some (Binary64.ofMagnitude negative Binary64.infinite)
  | _ => unsigned? negative characters

end LevelScript.Decimal
