namespace LevelScript.Text

/-!
# Ranges of code points

A character class is a list of disjoint ranges of code points in ascending order.
Looking a code point up stops at the first range that reaches it.
-/

/-- The code points from `first` to `last`, both included. -/
structure CodeRange where
  first : Nat
  last : Nat
deriving Repr, DecidableEq

namespace CodeRange

/-- One of the ascending ranges contains the code point. -/
def cover :
    List CodeRange →
    Nat →
    Bool
  | [], _ => false
  | range :: rest, code =>
      if code < range.first then
        false
      else if code ≤ range.last then
        true
      else
        cover rest code

end CodeRange

end LevelScript.Text
