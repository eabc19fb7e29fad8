import LevelScript.Proofs.Lexeme.Shape

namespace LevelScript.Lexeme

/-!
# Lexemes that can grow

A word, a number, a line comment or a row of blanks can grow if the characters behind it make
a longer lexeme of its form. Whether they do is decided by the first of them.
-/

namespace Shape

/-- What follows starts with characters that would make a longer lexeme of the same form. -/
def CanGrow
    (shape : Shape)
    (rest : List Char) :
    Prop :=
  ∃ (form : Repetition) (longer : Shape) (more after : List Char),
    shape.repetition? = some form ∧
      longer.repetition? = some form ∧
      longer.IsWellFormed ∧
      more ≠ [] ∧
      rest = more ++ after ∧
      longer.text = shape.text ++ more

/-- Every lexeme has characters. -/
theorem text_ne_nil
    {shape : Shape}
    (wellFormed : shape.IsWellFormed) :
    shape.text ≠ [] := by
  cases shape with
  | keyword word =>
      obtain ⟨first, more, text, _⟩ := exists_of_keyword word
      simp [Shape.text, text]
  | identifier name =>
      obtain ⟨first, more, text, _⟩ := exists_of_isIdentifier wellFormed
      simp [Shape.text, text]
  | number negative whole fraction =>
      simp [Shape.text, wellFormed.1]
  | blank run =>
      exact wellFormed.1
  | _ =>
      exact List.cons_ne_nil _ _

/-- One more character with which a lexeme goes on makes a longer one of the same form. -/
theorem exists_longer
    {shape : Shape}
    (wellFormed : shape.IsWellFormed)
    {next : Char}
    (continues : shape.goesOn next = true) :
    ∃ (form : Repetition) (longer : Shape),
      shape.repetition? = some form ∧
        longer.repetition? = some form ∧
        longer.IsWellFormed ∧
        longer.text = shape.text ++ [next] := by
  cases shape with
  | keyword word =>
      obtain ⟨first, more, text, letter, characters, _⟩ := exists_of_keyword word
      have all : ∀ character ∈ more ++ [next], Word.isCharacter character = true := by
        simpa [or_imp, forall_and] using ⟨characters, continues⟩
      obtain ⟨longer, longerWellFormed, longerText, isWord, _⟩ := exists_word letter all
      refine ⟨.word, longer, rfl, isWord, longerWellFormed, longerText.trans ?_⟩
      simp [Shape.text, text]
  | identifier name =>
      obtain ⟨first, more, text, letter, characters, _⟩ := exists_of_isIdentifier wellFormed
      have all : ∀ character ∈ more ++ [next], Word.isCharacter character = true := by
        simpa [or_imp, forall_and] using ⟨characters, continues⟩
      obtain ⟨longer, longerWellFormed, longerText, isWord, _⟩ := exists_word letter all
      refine ⟨.word, longer, rfl, isWord, longerWellFormed, longerText.trans ?_⟩
      simp [Shape.text, text]
  | number negative whole fraction =>
      obtain ⟨nonempty, wholeDigits, fractionDigits⟩ := wellFormed
      cases fraction with
      | none =>
          by_cases digit : next.isDigit = true
          · refine ⟨.number, .number negative (whole ++ [next]) none, rfl, rfl, ?_, ?_⟩
            · refine ⟨by simp, ?_, fractionDigits⟩
              simpa [or_imp, forall_and] using ⟨wholeDigits, digit⟩
            · simp [Shape.text, pointText]
          · have point : next = '.' := by
              simpa [goesOn, continuesFraction, digit] using continues
            subst point
            refine ⟨.number, .number negative whole (some []), rfl, rfl, ?_, ?_⟩
            · exact ⟨nonempty, wholeDigits, fractionDigits⟩
            · simp [Shape.text, pointText]
      | some digits =>
          have digit : next.isDigit = true := by
            simpa [goesOn, continuesFraction] using continues
          refine
            ⟨.number, .number negative whole (some (digits ++ [next])), rfl, rfl, ?_, ?_⟩
          · refine ⟨nonempty, wholeDigits, ?_⟩
            simpa [or_imp, forall_and] using ⟨fractionDigits, digit⟩
          · simp [Shape.text, pointText]
  | lineComment body =>
      have notFeed : next ≠ '\n' := by
        simpa [goesOn] using continues
      have noFeed : '\n' ∉ body := wellFormed
      refine ⟨.lineComment, .lineComment (body ++ [next]), rfl, rfl, ?_, rfl⟩
      change '\n' ∉ body ++ [next]
      simp [noFeed, notFeed.symm]
  | blank run =>
      obtain ⟨nonempty, blanks⟩ := wellFormed
      refine ⟨.blank, .blank (run ++ [next]), rfl, rfl, ⟨by simp, ?_⟩, rfl⟩
      simpa [or_imp, forall_and] using ⟨blanks, continues⟩
  | _ =>
      cases continues

/-- The characters of a word are letters and numerals. -/
theorem isCharacter_of_mem_text
    {shape : Shape}
    (wellFormed : shape.IsWellFormed)
    (isWord : shape.repetition? = some .word)
    {character : Char}
    (member : character ∈ shape.text) :
    Word.isCharacter character = true := by
  have all : ∀ {first : Char} {more : List Char},
      Text.isLetter first = true →
        (∀ other ∈ more, Word.isCharacter other = true) →
        character ∈ first :: more →
        Word.isCharacter character = true := by
    intro first more letter characters isIn
    rcases List.mem_cons.1 isIn with rfl | inMore
    · simp [Word.isCharacter, letter]
    · exact characters character inMore
  cases shape with
  | keyword word =>
      obtain ⟨first, more, text, letter, characters, _⟩ := exists_of_keyword word
      exact all letter characters (text ▸ member)
  | identifier name =>
      obtain ⟨first, more, text, letter, characters, _⟩ := exists_of_isIdentifier wellFormed
      exact all letter characters (text ▸ member)
  | _ =>
      cases isWord

/-- Behind its first character a number has digits and points only. -/
theorem isDigit_or_point_of_number
    {negative : Bool}
    {whole : List Char}
    {fraction : Option (List Char)}
    (wellFormed : (number negative whole fraction).IsWellFormed)
    {first next : Char}
    {start more : List Char}
    (text : (number negative whole fraction).text = first :: (start ++ next :: more)) :
    next.isDigit = true ∨ next = '.' := by
  obtain ⟨_, wholeDigits, fractionDigits⟩ := wellFormed
  have member : next ∈ whole ++ pointText fraction := by
    cases negative with
    | false =>
        have sameText : whole ++ pointText fraction = first :: (start ++ next :: more) := by
          simpa [Shape.text] using text
        simp [sameText]
    | true =>
        have sameText : whole ++ pointText fraction = start ++ next :: more := by
          simpa [Shape.text] using (List.cons.inj text).2
        simp [sameText]
  rcases List.mem_append.1 member with inWhole | inFraction
  · exact Or.inl (wholeDigits next inWhole)
  · cases fraction with
    | none =>
        cases inFraction
    | some digits =>
        rcases List.mem_cons.1 inFraction with isPoint | isDigit
        · exact Or.inr isPoint
        · exact Or.inl (fractionDigits next isDigit)

/-- A number has one point or none. -/
theorem count_point_number
    {negative : Bool}
    {whole : List Char}
    {fraction : Option (List Char)}
    (wellFormed : (number negative whole fraction).IsWellFormed) :
    (number negative whole fraction).text.count '.' = if fraction.isSome then 1 else 0 := by
  obtain ⟨_, wholeDigits, fractionDigits⟩ := wellFormed
  have noPoint : ∀ {digits : List Char},
      (∀ digit ∈ digits, digit.isDigit = true) → digits.count '.' = 0 := by
    intro digits allDigits
    rw [List.count_eq_zero]
    intro member
    exact absurd (allDigits '.' member) (by decide)
  have noPointInSign : (if negative then ['-'] else []).count '.' = 0 := by
    cases negative <;> rfl
  cases fraction with
  | none =>
      simp [Shape.text, pointText, noPointInSign, noPoint wholeDigits]
  | some digits =>
      rw [Option.getD_some] at fractionDigits
      simp [Shape.text, pointText, noPointInSign, noPoint wholeDigits, noPoint fractionDigits]

/-- A longer lexeme of the same form starts as the lexeme goes on. -/
theorem goesOn_of_longer
    {shape longer : Shape}
    (wellFormed : shape.IsWellFormed)
    (longerWellFormed : longer.IsWellFormed)
    {form : Repetition}
    (hasForm : shape.repetition? = some form)
    (sameForm : longer.repetition? = some form)
    {next : Char}
    {more : List Char}
    (longerText : longer.text = shape.text ++ next :: more) :
    shape.goesOn next = true := by
  have member : next ∈ longer.text := by
    simp [longerText]
  cases shape with
  | keyword word =>
      cases hasForm
      exact isCharacter_of_mem_text longerWellFormed sameForm member
  | identifier name =>
      cases hasForm
      exact isCharacter_of_mem_text longerWellFormed sameForm member
  | number negative whole fraction =>
      cases hasForm
      cases longer with
      | number longerNegative longerWhole longerFraction =>
          obtain ⟨first, start, text⟩ := List.exists_cons_of_ne_nil (text_ne_nil wellFormed)
          have digitOrPoint := isDigit_or_point_of_number longerWellFormed (text ▸ longerText)
          rcases digitOrPoint with digit | rfl
          · simp [goesOn, continuesFraction, digit]
          · cases fraction with
            | none =>
                simp [goesOn, continuesFraction]
            | some digits =>
                -- A second point is one too many.
                have points := congrArg (List.count '.') longerText
                rw [List.count_append, count_point_number longerWellFormed,
                  count_point_number wellFormed, List.count_cons_self] at points
                split at points <;> simp at points
      | _ =>
          cases sameForm
  | lineComment body =>
      cases hasForm
      cases longer with
      | lineComment longerBody =>
          have sameBody : longerBody = body ++ next :: more := by
            simpa [Shape.text] using longerText
          have inBody : next ∈ longerBody := by
            simp [sameBody]
          simpa [goesOn] using ne_of_mem_of_not_mem inBody longerWellFormed
      | _ =>
          cases sameForm
  | blank run =>
      cases hasForm
      cases longer with
      | blank longerRun =>
          exact longerWellFormed.2 next member
      | _ =>
          cases sameForm
  | _ =>
      cases hasForm

/-- A lexeme cannot grow exactly if it does not go on with the next character. -/
theorem not_canGrow_iff
    {shape : Shape}
    (wellFormed : shape.IsWellFormed)
    {rest : List Char} :
    ¬shape.CanGrow rest ↔ Ends shape.goesOn rest := by
  constructor
  · intro cannotGrow next isFirst
    obtain ⟨after, rfl⟩ := List.head?_eq_some_iff.1 isFirst
    by_contra continues
    rw [Bool.not_eq_false] at continues
    obtain ⟨form, longer, hasForm, sameForm, longerWellFormed, longerText⟩ :=
      exists_longer wellFormed continues
    exact
      cannotGrow
        ⟨form, longer, [next], after, hasForm, sameForm, longerWellFormed, by simp, rfl,
          longerText⟩
  · rintro ends ⟨form, longer, more, after, hasForm, sameForm, longerWellFormed, nonempty, rfl,
      longerText⟩
    obtain ⟨next, others, rfl⟩ := List.exists_cons_of_ne_nil nonempty
    have continues := goesOn_of_longer wellFormed longerWellFormed hasForm sameForm longerText
    rw [ends next rfl] at continues
    cases continues

end Shape

end LevelScript.Lexeme
