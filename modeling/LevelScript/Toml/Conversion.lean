import LevelScript.Decimal.Reading
import LevelScript.Toml.Value

namespace LevelScript.Toml

/-!
# Taking values apart

A program that reads a document asks each value for the shape that it expects. A record
may be written as a table or as an array with its fields in order.
-/

/-- The whole numbers from `low` to `high`. -/
structure NumberRange where
  low : Int
  high : Int
deriving Repr, DecidableEq

namespace NumberRange

/-- The numbers that fit into 64 bits, with or without a sign. -/
def bits64 : NumberRange :=
  ⟨-0x8000000000000000, 0xffffffffffffffff⟩

/-- The numbers that fit into 128 bits, with or without a sign. -/
def bits128 : NumberRange :=
  ⟨-0x80000000000000000000000000000000, 0xffffffffffffffffffffffffffffffff⟩

/-- The number is in the range. -/
def contains
    (range : NumberRange)
    (value : Int) :
    Bool :=
  range.low ≤ value && value ≤ range.high

end NumberRange

mutual

/-- Every number in the value counts something, and each whole one is in the range. -/
def Value.fits
    (range : NumberRange) :
    Value →
    Bool
  | .integer value => value.any range.contains
  | .float value => value.isSome
  | .array _ items => itemsFit range items
  | .table _ fields => fieldsFit range fields
  | .string _ => true
  | .boolean _ => true
  | .date _ => true

/-- All items fit into the range. -/
def itemsFit
    (range : NumberRange) :
    List Value →
    Bool
  | [] => true
  | item :: rest => item.fits range && itemsFit range rest

/-- All values of fields fit into the range. -/
def fieldsFit
    (range : NumberRange) :
    List (String × Value) →
    Bool
  | [] => true
  | (_, value) :: rest => value.fits range && fieldsFit range rest

end

namespace Value

/-- The text of a string. -/
def string? :
    Value →
    Option String
  | .string text => some text
  | _ => none

/-- The truth value. -/
def boolean? :
    Value →
    Option Bool
  | .boolean value => some value
  | _ => none

/-- The number, if it is whole and not negative. -/
def natural? :
    Value →
    Option Nat
  | .integer (some (.ofNat value)) => some value
  | _ => none

/-- The number, a whole one as the nearest floating point number. -/
def number? :
    Value →
    Option Float
  | .float value => value
  | .integer (some value) =>
      if NumberRange.bits64.contains value then
        some (Decimal.ofFraction (value < 0) value.natAbs 0)
      else
        none
  | _ => none

/-- The items of an array. -/
def items? :
    Value →
    Option (List Value)
  | .array _ items => some items
  | _ => none

/-- The table or the array has nothing in it. -/
def isEmptyTable :
    Value →
    Bool
  | .table _ [] => true
  | _ => false

/-- The array has nothing in it. -/
def isEmptyArray :
    Value →
    Bool
  | .array _ [] => true
  | _ => false

/-- The fields of a record; the names give their order in an array. -/
def record?
    (names : List String) :
    Value →
    Option Fields
  | .table _ fields => some fields
  | .array _ items => some (names.zip items)
  | _ => none

end Value

namespace Fields

/-- The value of a key that must be there. -/
def required?
    (fields : Fields)
    (key : String)
    (decode : Value → Option β) :
    Option β :=
  (fields.get? key).bind decode

/-- The value of a key, or a default if the key is not there. -/
def optional?
    (fields : Fields)
    (key : String)
    (default : β)
    (decode : Value → Option β) :
    Option β :=
  match fields.get? key with
  | none => some default
  | some value => decode value

end Fields

end LevelScript.Toml
