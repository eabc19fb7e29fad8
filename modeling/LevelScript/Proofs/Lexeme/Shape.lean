import LevelScript.Proofs.Lexeme.Spelling
import Mathlib.Data.List.TakeWhile

namespace LevelScript.Lexeme

open Text (isBlank isLetter replaceAll)

/-!
# The shapes of lexemes

A lexeme has one of a few shapes, each with its text and its token. Which shape stands at the
front of a text is decided by the text alone: a shape is cut off exactly if what follows does
not go on with it. What has no shape is a stray character, or a string or a comment that the
end of the source leaves open.
-/

/-- A lexeme by its shape and the parts it is written with. -/
inductive Shape where
  | keyword (word : Keyword)
  | identifier (name : String)
  /-- A sign, the digits before the point, and the digits after it if there is a point. -/
  | number (negative : Bool) (whole : List Char) (fraction : Option (List Char))
  | string (body : List Char)
  | lineComment (body : List Char)
  | blockComment (body : List Char)
  | dot
  | comma
  | leftParenthesis
  | rightParenthesis
  | lineEnd
  | blank (run : List Char)
deriving Repr, DecidableEq

/-- The forms of lexemes that go on as long as they can. -/
inductive Repetition where
  | word
  | number
  | lineComment
  | blank
deriving Repr, DecidableEq

namespace Shape

/-- The characters of a lexeme. -/
def text :
    Shape →
    List Char
  | .keyword word => word.text.toList
  | .identifier name => name.toList
  | .number negative whole fraction =>
      (if negative then ['-'] else []) ++ whole ++ pointText fraction
  | .string body => '[' :: (body ++ [']'])
  | .lineComment body => '/' :: '/' :: body
  | .blockComment body => '/' :: '*' :: (body ++ ['*', '/'])
  | .dot => ['.']
  | .comma => [',']
  | .leftParenthesis => ['(']
  | .rightParenthesis => [')']
  | .lineEnd => ['\n']
  | .blank run => run

/-- The token that a lexeme stands for. -/
def token :
    Shape →
    Token
  | .keyword word => .keyword word
  | .identifier name => .identifier name
  | .number negative whole fraction =>
      .number (Decimal.ofDigits negative whole (fraction.getD []))
  -- Long line ends are replaced first, and the carriage returns that are left after them.
  | .string body =>
      .string
        (String.ofList (replaceAll ['\r'] ['\n'] (replaceAll ['\r', '\n'] ['\n'] body)))
  | .lineComment body => .lineComment (String.ofList body)
  | .blockComment body => .blockComment (String.ofList body)
  | .dot => .dot
  | .comma => .comma
  | .leftParenthesis => .leftParenthesis
  | .rightParenthesis => .rightParenthesis
  | .lineEnd => .lineEnd
  | .blank _ => .blank

/-- The parts are such that the text has the shape. -/
def IsWellFormed :
    Shape →
    Prop
  | .identifier name => Word.isIdentifier name = true
  | .number _ whole fraction =>
      whole ≠ [] ∧
        (∀ digit ∈ whole, digit.isDigit = true) ∧
        ∀ digit ∈ fraction.getD [], digit.isDigit = true
  | .string body => ']' ∉ body
  | .lineComment body => '\n' ∉ body
  | .blockComment body => ¬['*', '/'] <:+: body
  | .blank run => run ≠ [] ∧ ∀ character ∈ run, isInlineBlank character = true
  | _ => True

/-- The token, unless it is a number that is too large. -/
def outcome :
    Shape →
    Except LexicalFault Token
  | .number negative whole fraction => numberToken negative whole (fraction.getD [])
  | shape => .ok shape.token

/-- The repeating form of a lexeme, if it has one. -/
def repetition? :
    Shape →
    Option Repetition
  | .keyword _ => some .word
  | .identifier _ => some .word
  | .number _ _ _ => some .number
  | .lineComment _ => some .lineComment
  | .blank _ => some .blank
  | _ => none

/-- A character with which the lexeme would be longer. -/
def goesOn :
    Shape →
    Char →
    Bool
  | .keyword _ => Word.isCharacter
  | .identifier _ => Word.isCharacter
  | .number _ _ fraction => continuesFraction fraction
  | .lineComment _ => (· != '\n')
  | .blank _ => isInlineBlank
  | _ => fun _ => false

end Shape

/-! ## Comments -/

/-- Only a text that starts with the closing mark is closed at once. -/
theorem closeComment?_cons
    {character : Char}
    {rest : List Char}
    (noMark : ¬['*', '/'] <+: character :: rest) :
    closeComment? (character :: rest) =
      (closeComment? rest).map fun (body, after) => (character :: body, after) := by
  rw [closeComment?]
  rintro more rfl rfl
  exact noMark ⟨more, rfl⟩

/-- A comment is closed by the first closing mark. -/
theorem closeComment?_append_mark
    {body : List Char}
    (noMark : ¬['*', '/'] <:+: body)
    (after : List Char) :
    closeComment? (body ++ '*' :: '/' :: after) = some (body, after) := by
  induction body with
  | nil =>
      rfl
  | cons character rest inductionHypothesis =>
      rw [List.infix_cons_iff, not_or] at noMark
      have notHere : ¬['*', '/'] <+: character :: (rest ++ '*' :: '/' :: after) := by
        intro isMark
        obtain ⟨rfl, next⟩ := List.cons_prefix_cons.1 isMark
        cases rest with
        | nil =>
            simp at next
        | cons second more =>
            obtain ⟨rfl, _⟩ := List.cons_prefix_cons.1 next
            exact noMark.1 ⟨more, rfl⟩
      rw [List.cons_append, closeComment?_cons notHere, inductionHypothesis noMark.2]
      rfl

/-- Without a closing mark a comment is not closed. -/
theorem closeComment?_eq_none
    {characters : List Char}
    (noMark : ¬['*', '/'] <:+: characters) :
    closeComment? characters = none := by
  induction characters with
  | nil =>
      rfl
  | cons character rest inductionHypothesis =>
      rw [List.infix_cons_iff, not_or] at noMark
      rw [closeComment?_cons noMark.1, inductionHypothesis noMark.2]
      rfl

/-- A text has no closing mark, or a first one. -/
theorem exists_first_mark
    (characters : List Char) :
    ¬['*', '/'] <:+: characters ∨
      ∃ body after,
        characters = body ++ '*' :: '/' :: after ∧ ¬['*', '/'] <:+: body := by
  induction characters with
  | nil =>
      exact Or.inl (by simp)
  | cons character rest inductionHypothesis =>
      by_cases isMark : ['*', '/'] <+: character :: rest
      · obtain ⟨after, shape⟩ := isMark
        exact Or.inr ⟨[], after, shape.symm, by simp⟩
      · rcases inductionHypothesis with noMark | ⟨body, after, rfl, noMark⟩
        · exact Or.inl (by simp [List.infix_cons_iff, isMark, noMark])
        · refine Or.inr ⟨character :: body, after, rfl, ?_⟩
          rw [List.infix_cons_iff, not_or]
          exact ⟨fun inBody => isMark (inBody.trans (List.prefix_append _ _)), noMark⟩

/-! ## Shapes are cut off -/

namespace Shape

/-- The value of a string is what is between its brackets, with unified line ends. -/
theorem token_string
    (body : List Char) :
    (string body).token = .string (String.ofList (unifyLineEnds body)) := by
  rw [token, unifyLineEnds_eq_replaceAll]

/-- A lexeme is its token, unless it is a number that is too large. -/
theorem outcome_eq_or_eq
    (shape : Shape) :
    shape.outcome = .ok shape.token ∨ shape.outcome = .error .numberOutOfRange := by
  cases shape with
  | number negative whole fraction =>
      unfold outcome numberToken
      dsimp only
      split
      case isTrue =>
        exact Or.inl rfl
      case isFalse =>
        exact Or.inr rfl
  | _ =>
      exact Or.inl rfl

/-- The token that is cut off is that of the shape. -/
theorem token_of_outcome
    {shape : Shape}
    {value : Token}
    (succeeds : shape.outcome = .ok value) :
    shape.token = value := by
  rcases shape.outcome_eq_or_eq with isToken | isTooLarge
  · exact Except.ok.inj (isToken.symm.trans succeeds)
  · cases isTooLarge.symm.trans succeeds

/-- A lexeme fails to be a token only if it is a number that is too large. -/
theorem eq_numberOutOfRange_of_outcome
    {shape : Shape}
    {fault : LexicalFault}
    (failed : shape.outcome = .error fault) :
    fault = .numberOutOfRange := by
  rcases shape.outcome_eq_or_eq with isToken | isTooLarge
  · cases isToken.symm.trans failed
  · exact Except.error.inj (failed.symm.trans isTooLarge)

/-- A shape is cut off in front of what does not go on with it. -/
theorem exists_cut
    {shape : Shape}
    (wellFormed : shape.IsWellFormed)
    {rest : List Char}
    (ends : Ends shape.goesOn rest) :
    ∃ first more,
      shape.text ++ rest = first :: more ∧
        cut first more = ⟨shape.outcome, shape.text, rest⟩ := by
  cases shape with
  | keyword word =>
      exact exists_cut_keyword word ends
  | identifier name =>
      exact exists_cut_identifier wellFormed ends
  | number negative whole fraction =>
      obtain ⟨nonempty, wholeDigits, fractionDigits⟩ := wellFormed
      exact cut_number negative fraction nonempty wholeDigits fractionDigits ends
  | string body =>
      refine ⟨'[', body ++ ']' :: rest, by simp [Shape.text], ?_⟩
      change cutString (body ++ ']' :: rest) = ⟨.ok (string body).token, _, rest⟩
      rw [token_string]
      exact cutString_append wellFormed rest
  | lineComment body =>
      have inside : ∀ character ∈ body, (character != '\n') = true := by
        intro character member
        simpa using ne_of_mem_of_not_mem member wellFormed
      refine ⟨'/', '/' :: (body ++ rest), rfl, ?_⟩
      change cutLineComment (body ++ rest) = _
      unfold cutLineComment
      rw [takeWhile_run_append inside ends, dropWhile_run_append inside ends]
      rfl
  | blockComment body =>
      refine ⟨'/', '*' :: (body ++ '*' :: '/' :: rest), by simp [Shape.text], ?_⟩
      change cutBlockComment (body ++ '*' :: '/' :: rest) = _
      unfold cutBlockComment
      rw [closeComment?_append_mark wellFormed]
      rfl
  | blank run =>
      obtain ⟨nonempty, blanks⟩ := wellFormed
      obtain ⟨first, more, rfl⟩ := List.exists_cons_of_ne_nil nonempty
      rw [List.forall_mem_cons] at blanks
      refine ⟨first, more ++ rest, rfl, ?_⟩
      rw [cut_of_isInlineBlank blanks.1]
      unfold cutRun
      rw [takeWhile_run_append blanks.2 ends, dropWhile_run_append blanks.2 ends]
      rfl
  | _ =>
      exact ⟨_, rest, rfl, rfl⟩

end Shape

/-! ## The front of a text -/

/-- A character that may start no lexeme. -/
def IsStray
    (character : Char) :
    Prop :=
  character = '/' ∨
    character = '-' ∨
    character ∉ marks ∧
      character.isDigit = false ∧
      isLetter character = false ∧
      isBlank character = false

/-- A slash starts a comment if another mark follows, a minus sign a number if a digit does. -/
def completesStray
    (character next : Char) :
    Bool :=
  (character == '/' && (next == '/' || next == '*')) || (character == '-' && next.isDigit)

/-- What can stand at the front of a text, and how it is cut off. -/
inductive Front : List Char → Cut → Prop where
  | shape
      {shape : Shape}
      {rest : List Char} :
      shape.IsWellFormed →
      Ends shape.goesOn rest →
      Front (shape.text ++ rest) ⟨shape.outcome, shape.text, rest⟩
  | stray
      {character : Char}
      {rest : List Char} :
      IsStray character →
      Ends (completesStray character) rest →
      Front (character :: rest) ⟨.error (.strayCharacter character), [character], rest⟩
  | unclosedString
      {rest : List Char} :
      ']' ∉ rest →
      Front ('[' :: rest) ⟨.error .unclosedString, '[' :: rest, []⟩
  | unclosedComment
      {rest : List Char} :
      ¬['*', '/'] <:+: rest →
      Front ('/' :: '*' :: rest) ⟨.error .unclosedComment, '/' :: '*' :: rest, []⟩

/-- A stray character is cut off alone. -/
theorem cut_of_isStray
    {character : Char}
    (isStray : IsStray character)
    {rest : List Char}
    (ends : Ends (completesStray character) rest) :
    cut character rest = cutCharacter (.error (.strayCharacter character)) character rest := by
  rcases isStray with rfl | rfl | ⟨noMark, noDigit, noLetter, noBlank⟩
  · cases rest with
    | nil =>
        rfl
    | cons next more =>
        have noComment := ends next rfl
        simp only [completesStray, beq_self_eq_true, Bool.true_and, Bool.or_eq_false_iff,
          beq_eq_false_iff_ne] at noComment
        unfold cut
        split
        case h_1 sameText =>
          exact (noComment.1.1 (List.cons.inj sameText).1).elim
        case h_2 sameText =>
          exact (noComment.1.2 (List.cons.inj sameText).1).elim
        case h_10 =>
          rfl
        all_goals
          rename_i sameMark
          exact absurd sameMark (by decide)
  · have endsDigits : Ends Char.isDigit rest := by
      intro next isFirst
      simpa [completesStray] using ends next isFirst
    have noDigits : ([] ++ rest).takeWhile Char.isDigit = [] :=
      takeWhile_run_append (by simp) endsDigits
    change cutMinus ([] ++ rest) = _
    unfold cutMinus
    rw [noDigits]
    rfl
  · rw [cut_of_not_mark noMark]
    simp [noDigit, noLetter, noBlank]

/-- A string that is not closed takes all that is left. -/
theorem cut_unclosedString
    {rest : List Char}
    (notClosed : ']' ∉ rest) :
    cut '[' rest = ⟨.error .unclosedString, '[' :: rest, []⟩ := by
  have all : ∀ character ∈ rest, (character != ']') = true := by
    intro character member
    simpa using ne_of_mem_of_not_mem member notClosed
  change cutString rest = _
  unfold cutString
  rw [List.dropWhile_eq_nil_iff.2 all]

/-- A comment that is not closed takes all that is left. -/
theorem cut_unclosedComment
    {rest : List Char}
    (noMark : ¬['*', '/'] <:+: rest) :
    cut '/' ('*' :: rest) = ⟨.error .unclosedComment, '/' :: '*' :: rest, []⟩ := by
  change cutBlockComment rest = _
  unfold cutBlockComment
  rw [closeComment?_eq_none noMark]

/-- What follows a run of characters does not go on with it. -/
theorem ends_dropWhile
    (goesOn : Char → Bool)
    (rest : List Char) :
    Ends goesOn (rest.dropWhile goesOn) := by
  intro character isFirst
  have stops := List.head?_dropWhile_not goesOn rest
  rw [isFirst] at stops
  exact stops

/-- Behind the digits of a number comes a point with further digits, or the number ends. -/
theorem exists_pointText
    {after : List Char}
    (ends : Ends Char.isDigit after) :
    ∃ fraction rest,
      after = pointText fraction ++ rest ∧
        (∀ digit ∈ fraction.getD [], digit.isDigit = true) ∧
        Ends (continuesFraction fraction) rest := by
  by_cases point : after.head? = some '.'
  · obtain ⟨more, rfl⟩ := List.head?_eq_some_iff.1 point
    refine ⟨some (more.takeWhile Char.isDigit), more.dropWhile Char.isDigit, ?_, ?_, ?_⟩
    · simp [pointText, List.takeWhile_append_dropWhile]
    · intro digit member
      exact List.mem_takeWhile_imp member
    · intro character isFirst
      simpa [continuesFraction] using ends_dropWhile Char.isDigit more character isFirst
  · refine ⟨none, after, rfl, by simp, ?_⟩
    intro character isFirst
    have noPoint : character ≠ '.' := by
      rintro rfl
      exact point isFirst
    simp [continuesFraction, ends character isFirst, noPoint]

/-- A word is a keyword or an identifier. -/
theorem Shape.exists_word
    {first : Char}
    {more : List Char}
    (letter : isLetter first = true)
    (characters : ∀ character ∈ more, Word.isCharacter character = true) :
    ∃ shape : Shape,
      shape.IsWellFormed ∧
        shape.text = first :: more ∧
        shape.repetition? = some .word ∧
        shape.goesOn = Word.isCharacter := by
  cases reserved : Keyword.ofText? (String.ofList (first :: more)) with
  | some word =>
      have text := List.find?_some reserved
      refine ⟨.keyword word, True.intro, ?_, rfl, rfl⟩
      simp only [decide_eq_true_eq] at text
      simp [Shape.text, text]
  | none =>
      refine
        ⟨.identifier (String.ofList (first :: more)), ?_, by simp [Shape.text], rfl, rfl⟩
      change Word.isIdentifier _ = true
      unfold Word.isIdentifier
      rw [String.toList_ofList]
      simp only [Bool.and_eq_true, List.all_eq_true, Option.isNone_iff_eq_none]
      exact ⟨⟨letter, characters⟩, reserved⟩

namespace Front

/-- A shape that ends where it does is cut off. -/
theorem of_shape
    (shape : Shape)
    (after : List Char)
    (wellFormed : shape.IsWellFormed)
    (ends : Ends shape.goesOn after)
    {first : Char}
    {rest : List Char}
    (text : shape.text ++ after = first :: rest) :
    Front (first :: rest) (cut first rest) := by
  obtain ⟨_, _, start, cutIs⟩ := Shape.exists_cut wellFormed ends
  obtain ⟨rfl, rfl⟩ := List.cons.inj (start.symm.trans text)
  rw [cutIs, ← text]
  exact .shape wellFormed ends

theorem of_isStray
    {character : Char}
    (isStray : IsStray character)
    {rest : List Char}
    (ends : Ends (completesStray character) rest) :
    Front (character :: rest) (cut character rest) := by
  rw [cut_of_isStray isStray ends]
  exact .stray isStray ends

/-- A slash starts a comment or is stray. -/
theorem slash
    (rest : List Char) :
    Front ('/' :: rest) (cut '/' rest) := by
  by_cases line : rest.head? = some '/'
  · obtain ⟨more, rfl⟩ := List.head?_eq_some_iff.1 line
    refine
      of_shape (.lineComment (more.takeWhile (· != '\n'))) (more.dropWhile (· != '\n')) ?_
        (ends_dropWhile _ more) (by simp [Shape.text])
    intro member
    simpa using List.mem_takeWhile_imp member
  · by_cases block : rest.head? = some '*'
    · obtain ⟨more, rfl⟩ := List.head?_eq_some_iff.1 block
      rcases exists_first_mark more with noMark | ⟨body, after, rfl, noMark⟩
      · rw [cut_unclosedComment noMark]
        exact .unclosedComment noMark
      · exact
          of_shape (.blockComment body) after noMark (fun _ _ => rfl) (by simp [Shape.text])
    · refine of_isStray (Or.inl rfl) ?_
      intro next isFirst
      rw [isFirst, Option.some.injEq] at line block
      simp [completesStray, line, block]

/-- A bracket starts a string. -/
theorem bracket
    (rest : List Char) :
    Front ('[' :: rest) (cut '[' rest) := by
  by_cases closed : ']' ∈ rest
  · obtain ⟨body, after, rfl, noBracket⟩ := List.eq_append_cons_of_mem closed
    exact of_shape (.string body) after noBracket (fun _ _ => rfl) (by simp [Shape.text])
  · rw [cut_unclosedString closed]
    exact .unclosedString closed

/-- Digits start a number, a minus sign in front of them included. -/
theorem number
    (negative : Bool)
    {whole after : List Char}
    (nonempty : whole ≠ [])
    (wholeDigits : ∀ digit ∈ whole, digit.isDigit = true)
    (ends : Ends Char.isDigit after)
    {first : Char}
    {rest : List Char}
    (text : (if negative then ['-'] else []) ++ whole ++ after = first :: rest) :
    Front (first :: rest) (cut first rest) := by
  obtain ⟨fraction, left, rfl, fractionDigits, endsFraction⟩ := exists_pointText ends
  refine
    of_shape (.number negative whole fraction) left ⟨nonempty, wholeDigits, fractionDigits⟩
      endsFraction ?_
  simpa [Shape.text] using text

/-- A minus sign starts a number or is stray. -/
theorem minus
    (rest : List Char) :
    Front ('-' :: rest) (cut '-' rest) := by
  by_cases digits : rest.takeWhile Char.isDigit = []
  · refine of_isStray (Or.inr (Or.inl rfl)) ?_
    have stops := ends_dropWhile Char.isDigit rest
    rw [← List.takeWhile_append_dropWhile (p := Char.isDigit) (l := rest), digits,
      List.nil_append]
    intro next isFirst
    simpa [completesStray] using stops next isFirst
  · exact
      number true digits (fun _ => List.mem_takeWhile_imp) (ends_dropWhile Char.isDigit rest)
        (by simp [List.takeWhile_append_dropWhile])

/-- What is no mark starts a number, a word or a row of blanks, or is stray. -/
theorem unmarked
    {first : Char}
    (noMark : first ∉ marks)
    (rest : List Char) :
    Front (first :: rest) (cut first rest) := by
  by_cases digit : first.isDigit = true
  · have digits : ∀ character ∈ first :: rest.takeWhile Char.isDigit,
        character.isDigit = true := by
      rw [List.forall_mem_cons]
      exact ⟨digit, fun _ => List.mem_takeWhile_imp⟩
    exact
      number false (List.cons_ne_nil _ _) digits (ends_dropWhile Char.isDigit rest)
        (by simp [List.takeWhile_append_dropWhile])
  · by_cases letter : isLetter first = true
    · obtain ⟨shape, wellFormed, text, _, goesOn⟩ :=
        Shape.exists_word letter
          (fun character (member : character ∈ rest.takeWhile Word.isCharacter) =>
            List.mem_takeWhile_imp member)
      refine of_shape shape (rest.dropWhile Word.isCharacter) wellFormed ?_ ?_
      · rw [goesOn]
        exact ends_dropWhile Word.isCharacter rest
      · simp [text, List.takeWhile_append_dropWhile]
    · by_cases blank : isBlank first = true
      · have notFeed : first ≠ '\n' := by
          rintro rfl
          exact noMark (by simp [marks])
        have blanks : ∀ character ∈ first :: rest.takeWhile isInlineBlank,
            isInlineBlank character = true := by
          rw [List.forall_mem_cons]
          exact ⟨by simp [isInlineBlank, blank, notFeed], fun _ => List.mem_takeWhile_imp⟩
        exact
          of_shape (.blank (first :: rest.takeWhile isInlineBlank))
            (rest.dropWhile isInlineBlank) ⟨List.cons_ne_nil _ _, blanks⟩
            (ends_dropWhile isInlineBlank rest)
            (by simp [Shape.text, List.takeWhile_append_dropWhile])
      · simp only [Bool.not_eq_true] at digit letter blank
        refine of_isStray (Or.inr (Or.inr ⟨noMark, digit, letter, blank⟩)) ?_
        intro next _
        have notSlash : first ≠ '/' := by
          rintro rfl
          exact noMark (by simp [marks])
        have notMinus : first ≠ '-' := by
          rintro rfl
          exact noMark (by simp [marks])
        simp [completesStray, notSlash, notMinus]

end Front

/-- Every text is cut off at its front as what stands there. -/
theorem front_cut
    (first : Char)
    (rest : List Char) :
    Front (first :: rest) (cut first rest) := by
  by_cases isMark : first ∈ marks
  · simp only [marks, List.mem_cons, List.not_mem_nil, or_false] at isMark
    rcases isMark with rfl | rfl | rfl | rfl | rfl | rfl | rfl | rfl
    · exact .slash rest
    · exact .bracket rest
    · exact .minus rest
    · exact .of_shape .dot rest True.intro (fun _ _ => rfl) rfl
    · exact .of_shape .comma rest True.intro (fun _ _ => rfl) rfl
    · exact .of_shape .leftParenthesis rest True.intro (fun _ _ => rfl) rfl
    · exact .of_shape .rightParenthesis rest True.intro (fun _ _ => rfl) rfl
    · exact .of_shape .lineEnd rest True.intro (fun _ _ => rfl) rfl
  · exact .unmarked isMark rest

/-- What is cut off without a token is a stray character alone, or one of the other faults,
none of which is found where the text has ended. -/
theorem fault_of_cut
    {first : Char}
    {rest taken after : List Char}
    {fault : LexicalFault}
    (cutIs : cut first rest = ⟨.error fault, taken, after⟩) :
    (∃ character, fault = .strayCharacter character ∧ taken = [character]) ∨
      fault ∈ [.unclosedString, .numberOutOfRange, .unclosedComment] := by
  have front := front_cut first rest
  rw [cutIs] at front
  generalize first :: rest = characters at front
  generalize result : (⟨.error fault, taken, after⟩ : Cut) = piece at front
  cases front with
  | shape _ _ =>
      obtain ⟨failed, _, _⟩ := Cut.mk.inj result
      rw [Shape.eq_numberOutOfRange_of_outcome failed.symm]
      exact Or.inr (by decide)
  | @stray character _ _ _ =>
      cases result
      exact Or.inl ⟨character, rfl, rfl⟩
  | unclosedString _ =>
      cases result
      exact Or.inr (by decide)
  | unclosedComment _ =>
      cases result
      exact Or.inr (by decide)

/-- A token that is cut off is that of a shape which ends there. -/
theorem exists_shape_of_cut
    {first : Char}
    {rest taken after : List Char}
    {token : Token}
    (cutIs : cut first rest = ⟨.ok token, taken, after⟩) :
    ∃ shape : Shape,
      shape.IsWellFormed ∧
        shape.outcome = .ok token ∧ shape.text = taken ∧ Ends shape.goesOn after := by
  have front := front_cut first rest
  rw [cutIs] at front
  generalize first :: rest = characters at front
  generalize result : (⟨.ok token, taken, after⟩ : Cut) = piece at front
  cases front with
  | @shape shape _ wellFormed ends =>
      obtain ⟨outcome, rfl, rfl⟩ := Cut.mk.inj result
      exact ⟨shape, wellFormed, outcome.symm, rfl, ends⟩
  | _ =>
      cases result

end LevelScript.Lexeme
