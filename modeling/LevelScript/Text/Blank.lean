import LevelScript.Text.CodeRange

namespace LevelScript.Text

/-!
# White space

The Unicode property `White_Space`, as ascending ranges of code points.
-/

/-- The code points with the property `White_Space`, in ascending ranges. -/
def blankRanges : List CodeRange :=
  [⟨0x9, 0xd⟩, ⟨0x20, 0x20⟩, ⟨0x85, 0x85⟩, ⟨0xa0, 0xa0⟩, ⟨0x1680, 0x1680⟩, ⟨0x2000, 0x200a⟩,
    ⟨0x2028, 0x2029⟩, ⟨0x202f, 0x202f⟩, ⟨0x205f, 0x205f⟩, ⟨0x3000, 0x3000⟩]

/-- White space of any width, line ends included. -/
def isBlank
    (character : Char) :
    Bool :=
  CodeRange.cover blankRanges character.toNat

end LevelScript.Text
