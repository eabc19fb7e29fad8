namespace LevelScript.Text

/-!
# Positions in a text

Positions count the bytes of the UTF-8 form, so a character is one to four wide.
-/

/-- The number of bytes of the UTF-8 form. -/
def byteWidth :
    List Char →
    Nat
  | [] => 0
  | character :: rest => character.utf8Size + byteWidth rest

@[simp] theorem byteWidth_nil :
    byteWidth [] = 0 :=
  rfl

@[simp] theorem byteWidth_cons
    (character : Char)
    (rest : List Char) :
    byteWidth (character :: rest) = character.utf8Size + byteWidth rest :=
  rfl

/-- The width of two texts in a row is the sum of their widths. -/
@[simp] theorem byteWidth_append
    (first second : List Char) :
    byteWidth (first ++ second) = byteWidth first + byteWidth second := by
  induction first with
  | nil =>
      simp
  | cons character rest inductionHypothesis =>
      simp [inductionHypothesis, Nat.add_assoc]

end LevelScript.Text
