import LevelScript.Decimal.Reading
import LevelScript.Toml.Value

namespace LevelScript.Toml

/-!
# Scalars without quotes

Numbers, truth values and dates are written without quotes. Digits may be grouped by
single underscores, and a decimal number has no leading zero. What kind of number a
scalar is shows before its value does: one that is written like a whole number may still
have no value, and one with a fraction may be too large.
-/

/-- The value of a digit up to `f`. -/
def digitValue
    (digit : Char) :
    Nat :=
  if digit.isDigit then
    digit.toNat - '0'.toNat
  else
    digit.toLower.toNat - 'a'.toNat + 10

/-- A digit of the given base. -/
def isDigitOf
    (base : Nat)
    (character : Char) :
    Bool :=
  (character.isDigit || ('a' ≤ character.toLower && character.toLower ≤ 'f')) &&
    digitValue character < base

/-- The number that digits count in a base. -/
def ofDigits
    (base : Nat)
    (digits : List Char) :
    Nat :=
  digits.foldl (fun number digit => base * number + digitValue digit) 0

/-- The characters without their underscores, each of which stands between two digits;
`afterDigit` says whether the first character may be one. -/
def ungrouped?
    (isDigit : Char → Bool) :
    Bool →
    List Char →
    Option (List Char)
  | _, [] => some []
  | afterDigit, character :: rest =>
      if character = '_' then
        if afterDigit && rest.head?.any isDigit then
          ungrouped? isDigit false rest
        else
          none
      else
        (ungrouped? isDigit (isDigit character) rest).map (character :: ·)

/-- A number without its underscores, one of which may also follow its sign. -/
def ungroupedNumber?
    (isDigit : Char → Bool) :
    List Char →
    Option (List Char)
  | '+' :: rest => (ungrouped? isDigit true rest).map ('+' :: ·)
  | '-' :: rest => (ungrouped? isDigit true rest).map ('-' :: ·)
  | characters => ungrouped? isDigit false characters

/-- The digits of a number start with a zero that counts nothing. -/
def hasLeadingZero :
    List Char →
    Bool
  | '0' :: next :: _ => next.isDigit || next = '_'
  | _ => false

/-- The digits of a whole number behind the mark of their base; without any of them it
has no value. -/
def based?
    (base : Nat)
    (characters : List Char) :
    Option (Option Int) :=
  (ungrouped? (isDigitOf base) false characters).bind fun digits =>
    if digits = [] then
      some none
    else if digits.all (isDigitOf base) then
      some (some (ofDigits base digits : Nat))
    else
      none

/-- A character that is in no whole number, not even in one without a value. -/
def breaksWhole
    (character : Char) :
    Bool :=
  character = ' ' || character = '.' || character = 'e' || character = 'E'

/-- The characters behind a sign are written like a whole number: they are digits, or
the first other character groups them. -/
def isWhole
    (characters : List Char) :
    Bool :=
  match characters.dropWhile Char.isDigit with
  | [] => !characters.isEmpty
  | mark :: rest => mark = '_' && !rest.any breaksWhole

/-- A whole number in base ten; behind an underscore a character that is no decimal
digit leaves it without a value. -/
def decimal?
    (characters : List Char) :
    Option (Option Int) :=
  let unsigned := (Decimal.takeSign characters).2
  if isWhole unsigned && !hasLeadingZero unsigned then
    (ungroupedNumber? (isDigitOf 16) characters).map Decimal.integer?
  else
    none

/-- A whole number, in base ten unless a mark says otherwise. -/
def integer? :
    List Char →
    Option (Option Int)
  | '0' :: 'x' :: digits => based? 16 digits
  | '0' :: 'o' :: digits => based? 8 digits
  | '0' :: 'b' :: digits => based? 2 digits
  | characters => decimal? characters

/-- The fraction digits and the exponent behind a whole number, at least one of them. -/
def fractionAndExponent? :
    List Char →
    Option (List Char × Int)
  | [] => none
  | '.' :: rest =>
      match rest.takeWhile Char.isDigit with
      | [] => none
      | fraction =>
          (Decimal.exponent? (rest.dropWhile Char.isDigit)).map fun power =>
            (fraction, power)
  | characters => (Decimal.exponent? characters).map fun power => ([], power)

/-- A value that must be finite. -/
def finite?
    (value : Float) :
    Option Float :=
  if value.isFinite then some value else none

/-- An unsigned number with a fraction or an exponent. -/
def scientific?
    (negative : Bool)
    (characters : List Char) :
    Option (Option Float) :=
  match characters.takeWhile Char.isDigit with
  | [] => none
  | whole =>
      (fractionAndExponent? (characters.dropWhile Char.isDigit)).map
        fun (fraction, exponent) =>
          finite? (Decimal.ofScientific negative whole fraction exponent)

/-- A number with a fraction, an exponent or a name. -/
def float?
    (characters : List Char) :
    Option (Option Float) :=
  let (negative, unsigned) := Decimal.takeSign characters
  if unsigned = "inf".toList then
    some (some (Binary64.ofMagnitude negative Binary64.infinite))
  else if unsigned = "nan".toList then
    some (some (Float.ofBits 0x7ff8000000000000))
  else if hasLeadingZero unsigned then
    none
  else
    (ungroupedNumber? Char.isDigit characters).bind fun number =>
      scientific? negative (Decimal.takeSign number).2

/-- The number of two digits. -/
def twoDigits?
    (first second : Char) :
    Option Nat :=
  if first.isDigit ∧ second.isDigit then
    some (Decimal.natural [first, second])
  else
    none

/-- The number of days of a month. -/
def daysOfMonth
    (year month : Nat) :
    Nat :=
  if month = 2 then
    if year % 4 = 0 ∧ (year % 100 ≠ 0 ∨ year % 400 = 0) then 29 else 28
  else if month = 4 ∨ month = 6 ∨ month = 9 ∨ month = 11 then
    30
  else
    31

/-- What follows a calendar day. -/
def afterDay? :
    List Char →
    Option (List Char)
  | y1 :: y2 :: y3 :: y4 :: '-' :: m1 :: m2 :: '-' :: d1 :: d2 :: rest => do
      let century ← twoDigits? y1 y2
      let yearOfCentury ← twoDigits? y3 y4
      let month ← twoDigits? m1 m2
      let day ← twoDigits? d1 d2
      let year := 100 * century + yearOfCentury
      if 1 ≤ month ∧ month ≤ 12 ∧ 1 ≤ day ∧ day ≤ daysOfMonth year month then
        some rest
      else
        none
  | _ => none

/-- What follows the seconds of a time, which may be left out. -/
def afterSeconds? :
    List Char →
    Option (List Char)
  | ':' :: s1 :: s2 :: rest => do
      let second ← twoDigits? s1 s2
      if second ≤ 60 then
        match rest with
        | '.' :: digit :: more =>
            if digit.isDigit then some (more.dropWhile Char.isDigit) else none
        | '.' :: [] => none
        | _ => some rest
      else
        none
  | ':' :: _ => none
  | rest => some rest

/-- What follows a time of day. -/
def afterTime? :
    List Char →
    Option (List Char)
  | h1 :: h2 :: ':' :: m1 :: m2 :: rest => do
      let hour ← twoDigits? h1 h2
      let minute ← twoDigits? m1 m2
      if hour ≤ 23 ∧ minute ≤ 59 then afterSeconds? rest else none
  | _ => none

/-- The text is the offset of a time zone or nothing. -/
def isOffset :
    List Char →
    Bool
  | [] => true
  | ['Z'] => true
  | ['z'] => true
  | [sign, h1, h2, ':', m1, m2] =>
      (sign = '+' || sign = '-') &&
        (twoDigits? h1 h2).any (· ≤ 23) && (twoDigits? m1 m2).any (· ≤ 59)
  | _ => false

/-- A day, a time of day, or both with an optional time zone. -/
def isDate
    (characters : List Char) :
    Bool :=
  match afterDay? characters with
  | some [] => true
  | some (mark :: rest) =>
      (mark = 'T' || mark = 't' || mark = ' ') && (afterTime? rest).any isOffset
  | none => (afterTime? characters).any List.isEmpty

/-- The value of a scalar without quotes. -/
def scalar?
    (characters : List Char) :
    Option Value :=
  if characters = "true".toList then
    some (.boolean true)
  else if characters = "false".toList then
    some (.boolean false)
  else if isDate characters then
    some (.date (String.ofList characters))
  else
    match integer? characters with
    | some value => some (.integer value)
    | none => (float? characters).map .float

end LevelScript.Toml
