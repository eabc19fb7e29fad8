import LevelScript.Text.Blank
import LevelScript.Word

namespace LevelScript.Text

/-!
# Classes of characters

The first character of a lexeme decides its form, because no character belongs to two of
the classes that can start one: ASCII digits, letters, white space and the marks.
-/

/-- A covered code point lies in one of the ranges. -/
theorem CodeRange.exists_of_cover
    {ranges : List CodeRange}
    {code : Nat}
    (covered : CodeRange.cover ranges code = true) :
    ∃ range ∈ ranges, range.first ≤ code ∧ code ≤ range.last := by
  induction ranges with
  | nil =>
      cases covered
  | cons range rest inductionHypothesis =>
      unfold CodeRange.cover at covered
      split at covered
      · cases covered
      · split at covered
        · exact ⟨range, by simp, by omega, by omega⟩
        · obtain ⟨found, member, bounds⟩ := inductionHypothesis covered
          exact ⟨found, by simp [member], bounds⟩

/-- Code points in front of the first range are not covered. -/
theorem CodeRange.cover_eq_false_of_lt
    {range : CodeRange}
    {rest : List CodeRange}
    {code : Nat}
    (below : code < range.first) :
    CodeRange.cover (range :: rest) code = false := by
  rw [CodeRange.cover, if_pos below]

/-- No letter comes before the capital `A`. -/
theorem isLetter_eq_false_of_lt
    {character : Char}
    (below : character.toNat < 0x41) :
    isLetter character = false := by
  unfold isLetter letterRanges
  exact CodeRange.cover_eq_false_of_lt below

theorem isLetter_eq_false_of_isDigit
    {character : Char}
    (digit : character.isDigit = true) :
    isLetter character = false := by
  apply isLetter_eq_false_of_lt
  simp only [Char.isDigit, Bool.and_eq_true, decide_eq_true_eq] at digit
  have bound : character.toNat ≤ 57 := digit.2
  omega

theorem isDigit_eq_false_of_isBlank
    {character : Char}
    (blank : isBlank character = true) :
    character.isDigit = false := by
  have apart : ∀ range ∈ blankRanges, range.last < 48 ∨ 57 < range.first := by
    decide
  obtain ⟨range, member, atLeast, atMost⟩ := CodeRange.exists_of_cover blank
  have outside := apart range member
  cases digit : character.isDigit with
  | false =>
      rfl
  | true =>
      simp only [Char.isDigit, Bool.and_eq_true, decide_eq_true_eq] at digit
      have lower : 48 ≤ character.toNat := digit.1
      have upper : character.toNat ≤ 57 := digit.2
      omega

/-- Ranges that hold none of the few code points of white space cover no blank. -/
theorem cover_eq_false_of_isBlank
    {ranges : List CodeRange}
    (disjoint :
      ∀ range ∈ blankRanges, ∀ offset < range.last + 1 - range.first,
        CodeRange.cover ranges (range.first + offset) = false)
    {character : Char}
    (blank : isBlank character = true) :
    CodeRange.cover ranges character.toNat = false := by
  obtain ⟨range, member, atLeast, atMost⟩ := CodeRange.exists_of_cover blank
  have apart := disjoint range member (character.toNat - range.first) (by omega)
  rwa [Nat.add_sub_cancel' atLeast] at apart

theorem isLetter_eq_false_of_isBlank
    {character : Char}
    (blank : isBlank character = true) :
    isLetter character = false :=
  cover_eq_false_of_isBlank (by decide +kernel) blank

theorem isNumeral_eq_false_of_isBlank
    {character : Char}
    (blank : isBlank character = true) :
    isNumeral character = false :=
  cover_eq_false_of_isBlank (by decide +kernel) blank

end LevelScript.Text
