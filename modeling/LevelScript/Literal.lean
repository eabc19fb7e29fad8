import LevelScript.Geometry.Vec

namespace LevelScript

/-!
# Literals

The arguments of a constructor are literals of three kinds. A constructor is chosen by
the kinds alone, so a list of kinds is its signature.
-/

/-- The kinds of literals. -/
inductive LiteralKind where
  | string
  | number
  | vector
deriving Repr, DecidableEq, Inhabited

/-- An argument of a constructor. -/
inductive Literal (α : Type) where
  /-- Text between square brackets. -/
  | string (text : String)
  /-- A signed decimal number. -/
  | number (value : α)
  /-- Three numbers in parentheses. -/
  | vector (value : Vec3 α)
deriving Repr, DecidableEq, BEq, Inhabited

namespace LiteralKind

/-- The word for the kind. -/
def text :
    LiteralKind →
    String
  | .string => "string"
  | .number => "number"
  | .vector => "vector"

/-- The kind that a word stands for. -/
def ofText? :
    String →
    Option LiteralKind
  | "string" => some .string
  | "number" => some .number
  | "vector" => some .vector
  | _ => none

/-- The signature of a list of kinds, the words in parentheses. -/
def signature
    (kinds : List LiteralKind) :
    String :=
  "(" ++ ", ".intercalate (kinds.map text) ++ ")"

end LiteralKind

namespace Literal

/-- The kind of a literal. -/
def kind :
    Literal α →
    LiteralKind
  | .string _ => .string
  | .number _ => .number
  | .vector _ => .vector

/-- The text of a string literal. -/
def string? :
    Literal α →
    Option String
  | .string text => some text
  | _ => none

/-- The value of a number literal. -/
def number? :
    Literal α →
    Option α
  | .number value => some value
  | _ => none

/-- The value of a vector literal. -/
def vector? :
    Literal α →
    Option (Vec3 α)
  | .vector value => some value
  | _ => none

end Literal

end LevelScript
