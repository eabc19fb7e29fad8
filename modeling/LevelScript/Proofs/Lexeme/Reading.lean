import LevelScript.Grammar.Program
import LevelScript.Proofs.Decimal.ReadBack
import LevelScript.Proofs.Text.Classes

namespace LevelScript.Lexeme

open Text (byteWidth isLetter)

/-!
# Reading characters as tokens

`Reads characters tokens` says that a text is cut into tokens without any fault, and which
significant tokens these are. It is built from the end of the text to its start: each lexeme
is read from what follows it, provided that this does not go on with the lexeme.
-/

/-- The characters are cut without a fault, and the tokens are the significant ones. -/
inductive Reads : List Char → List Token → Prop where
  | nil :
      Reads [] []
  | significant
      {first : Char}
      {rest taken after : List Char}
      {token : Token}
      {tokens : List Token} :
      cut first rest = ⟨.ok token, taken, after⟩ →
      token.isTrivia = false →
      Reads after tokens →
      Reads (first :: rest) (token :: tokens)
  | trivia
      {first : Char}
      {rest taken after : List Char}
      {token : Token}
      {tokens : List Token} :
      cut first rest = ⟨.ok token, taken, after⟩ →
      token.isTrivia = true →
      Reads after tokens →
      Reads (first :: rest) tokens

namespace Reads

/-- A text that is read has no faulty piece, and its tokens are those that are read. -/
theorem pieces
    {characters : List Char}
    {tokens : List Token}
    (reads : Reads characters tokens)
    (offset : Nat) :
    (Lexeme.pieces offset characters).filterMap fault? = [] ∧
      (Program.significant ((Lexeme.pieces offset characters).filterMap token?)).map
          Located.value =
        tokens := by
  induction reads generalizing offset with
  | nil =>
      simp [Lexeme.pieces, Program.significant]
  | @significant first rest taken after token tokens cutIs isSignificant reads
      inductionHypothesis =>
      obtain ⟨noFault, tokensAre⟩ :=
        inductionHypothesis (Span.ofWidth offset (byteWidth taken)).stop
      unfold Lexeme.pieces
      simp only [cutIs, List.filterMap_cons, fault?, token?, Program.significant,
        List.filter_cons, isSignificant, Bool.not_false, if_true, List.map_cons]
      exact ⟨noFault, congrArg (token :: ·) tokensAre⟩
  | @trivia first rest taken after token tokens cutIs isTrivia reads
      inductionHypothesis =>
      obtain ⟨noFault, tokensAre⟩ :=
        inductionHypothesis (Span.ofWidth offset (byteWidth taken)).stop
      unfold Lexeme.pieces
      simp only [cutIs, List.filterMap_cons, fault?, token?, Program.significant,
        List.filter_cons, isTrivia, Bool.not_true, Bool.false_eq_true, if_false]
      exact ⟨noFault, tokensAre⟩

/-- A text that is read is tokenized. -/
theorem tokenize
    {source : String}
    {tokens : List Token}
    (reads : Reads source.toList tokens) :
    ∃ located,
      Lexeme.tokenize source = .ok located ∧
        (Program.significant located).map Located.value = tokens := by
  obtain ⟨noFault, tokensAre⟩ := reads.pieces 0
  refine ⟨_, ?_, tokensAre⟩
  unfold Lexeme.tokenize
  simp only [noFault]

end Reads

/-! ## The form of a lexeme by its first character -/

/-- The marks that decide the form of a lexeme by themselves. -/
def marks : List Char :=
  ['/', '[', '-', '.', ',', '(', ')', '\n']

/-- A first character that is no mark decides by the class it belongs to. -/
theorem cut_of_not_mark
    {first : Char}
    (noMark : first ∉ marks)
    (rest : List Char) :
    cut first rest =
      if first.isDigit then
        cutNumber false (first :: rest.takeWhile Char.isDigit) (rest.dropWhile Char.isDigit)
      else if isLetter first then
        cutRun Word.isCharacter (fun word => wordToken (String.ofList word)) first rest
      else if Text.isBlank first then
        cutRun isInlineBlank (fun _ => .blank) first rest
      else
        cutCharacter (.error (.strayCharacter first)) first rest := by
  unfold cut
  split
  case h_10 =>
    rfl
  all_goals exact (noMark (by simp [marks])).elim

/-- A class without marks holds no mark. -/
theorem not_mark_of_class
    {inClass : Char → Bool}
    (noMarks : marks.any inClass = false)
    {first : Char}
    (member : inClass first = true) :
    first ∉ marks := by
  intro isMark
  exact List.any_eq_false.1 noMarks first isMark member

/-! ## Runs of characters -/

/-- The text does not start with a character of the class. -/
def Ends
    (goesOn : Char → Bool)
    (rest : List Char) :
    Prop :=
  ∀ character, rest.head? = some character → goesOn character = false

/-- An empty text ends everything. -/
theorem ends_nil
    (goesOn : Char → Bool) :
    Ends goesOn [] := by
  simp [Ends]

theorem ends_cons
    {goesOn : Char → Bool}
    {first : Char}
    (rest : List Char)
    (outside : goesOn first = false) :
    Ends goesOn (first :: rest) := by
  intro character isFirst
  cases isFirst
  exact outside

/-- A text that starts with one of some characters ends the classes without any of them. -/
theorem ends_cons_of_class
    {goesOn : Char → Bool}
    {characters : List Char}
    (apart : characters.any goesOn = false)
    {first : Char}
    (member : first ∈ characters)
    (rest : List Char) :
    Ends goesOn (first :: rest) := by
  have outside := List.any_eq_false.1 apart first member
  exact ends_cons rest (Bool.eq_false_iff.2 outside)

theorem takeWhile_run_append
    {goesOn : Char → Bool}
    {run rest : List Char}
    (inside : ∀ character ∈ run, goesOn character = true)
    (ends : Ends goesOn rest) :
    (run ++ rest).takeWhile goesOn = run := by
  rw [List.takeWhile_append_of_pos inside]
  cases rest with
  | nil =>
      simp
  | cons first more =>
      rw [List.takeWhile_cons_of_neg (by simp [ends first rfl]), List.append_nil]

theorem dropWhile_run_append
    {goesOn : Char → Bool}
    {run rest : List Char}
    (inside : ∀ character ∈ run, goesOn character = true)
    (ends : Ends goesOn rest) :
    (run ++ rest).dropWhile goesOn = rest := by
  rw [List.dropWhile_append_of_pos inside]
  cases rest with
  | nil =>
      rfl
  | cons first more =>
      rw [List.dropWhile_cons_of_neg (by simp [ends first rfl])]

end LevelScript.Lexeme
