import LevelScript.Decimal.Reading
import LevelScript.Text.Blank
import LevelScript.Word

namespace LevelScript

/-!
# Cutting off one lexeme

The first character decides what a lexeme is, together with the second one after a
slash. The cut takes as many characters as can belong to it. Nothing of the text is lost
between a cut and its rest, and every cut takes at least one character.
-/

/-- What keeps a lexeme from being a token. -/
inductive LexicalFault where
  /-- A string is not closed before the end of the source. -/
  | unclosedString
  /-- The character starts no token. -/
  | strayCharacter (character : Char)
  /-- A token is looked for where the source has ended, which never happens. -/
  | unexpectedEnd
  /-- The digits count more than the largest finite number. -/
  | numberOutOfRange
  /-- A block comment is not closed before the end of the source. -/
  | unclosedComment
deriving Repr, DecidableEq

/-- What keeps a text from starting with a token, if none of the forms does. -/
def LexicalFault.ofFront :
    List Char →
    LexicalFault
  | [] => .unexpectedEnd
  | character :: _ => .strayCharacter character

/-- One lexeme cut off from the front of a text. -/
structure Cut where
  outcome : Except LexicalFault Token
  taken : List Char
  rest : List Char

namespace Lexeme

open Text (isBlank isLetter)

/-- White space that does not end a line. -/
def isInlineBlank
    (character : Char) :
    Bool :=
  isBlank character && character != '\n'

/-- The token for a whole word. -/
def wordToken
    (word : String) :
    Token :=
  match Keyword.ofText? word with
  | some keyword => .keyword keyword
  | none => .identifier word

/-- Every line end written as a line feed. -/
def unifyLineEnds :
    List Char →
    List Char
  | '\r' :: '\n' :: rest => '\n' :: unifyLineEnds rest
  | '\r' :: rest => '\n' :: unifyLineEnds rest
  | character :: rest => character :: unifyLineEnds rest
  | [] => []

/-- The text before the mark that closes a block comment, and the text after it. -/
def closeComment? :
    List Char →
    Option (List Char × List Char)
  | '*' :: '/' :: rest => some ([], rest)
  | character :: rest =>
      (closeComment? rest).map fun (body, after) => (character :: body, after)
  | [] => none

/-- The token of a decimal number, unless it is too large. -/
def numberToken
    (negative : Bool)
    (whole fraction : List Char) :
    Except LexicalFault Token :=
  let value := Decimal.ofDigits negative whole fraction
  if value.isFinite then .ok (.number value) else .error .numberOutOfRange

/-- A lexeme of one character. -/
def cutCharacter
    (outcome : Except LexicalFault Token)
    (first : Char)
    (rest : List Char) :
    Cut :=
  ⟨outcome, [first], rest⟩

/-- The first character and those after it that go on with it. -/
def cutRun
    (goesOn : Char → Bool)
    (token : List Char → Token)
    (first : Char)
    (rest : List Char) :
    Cut :=
  let taken := first :: rest.takeWhile goesOn
  ⟨.ok (token taken), taken, rest.dropWhile goesOn⟩

/-- A line comment, given what follows its two slashes. -/
def cutLineComment
    (rest : List Char) :
    Cut :=
  let body := rest.takeWhile (· != '\n')
  ⟨.ok (.lineComment (String.ofList body)), '/' :: '/' :: body, rest.dropWhile (· != '\n')⟩

/-- A block comment, given what follows its opening mark. -/
def cutBlockComment
    (rest : List Char) :
    Cut :=
  match closeComment? rest with
  | some (body, after) =>
      ⟨.ok (.blockComment (String.ofList body)), '/' :: '*' :: (body ++ ['*', '/']), after⟩
  | none => ⟨.error .unclosedComment, '/' :: '*' :: rest, []⟩

/-- A string, given what follows its opening bracket. -/
def cutString
    (rest : List Char) :
    Cut :=
  let body := rest.takeWhile (· != ']')
  match rest.dropWhile (· != ']') with
  | close :: after =>
      ⟨.ok (.string (String.ofList (unifyLineEnds body))), '[' :: (body ++ [close]), after⟩
  | [] => ⟨.error .unclosedString, '[' :: rest, []⟩

/-- A number, given its sign, its digits before the point and what follows them. -/
def cutNumber
    (negative : Bool)
    (whole : List Char)
    (rest : List Char) :
    Cut :=
  let sign := if negative then ['-'] else []
  match rest with
  | '.' :: more =>
      let fraction := more.takeWhile Char.isDigit
      ⟨numberToken negative whole fraction, sign ++ whole ++ '.' :: fraction,
        more.dropWhile Char.isDigit⟩
  | _ => ⟨numberToken negative whole [], sign ++ whole, rest⟩

/-- A number or else a stray minus sign, given what follows the sign. -/
def cutMinus
    (rest : List Char) :
    Cut :=
  match rest.takeWhile Char.isDigit with
  | [] => cutCharacter (.error (.ofFront ('-' :: rest))) '-' rest
  | digit :: digits => cutNumber true (digit :: digits) (rest.dropWhile Char.isDigit)

/-- The lexeme at the front of a text, by its first character. -/
def cut
    (first : Char)
    (rest : List Char) :
    Cut :=
  match first, rest with
  | '/', '/' :: more => cutLineComment more
  | '/', '*' :: more => cutBlockComment more
  | '[', _ => cutString rest
  | '-', _ => cutMinus rest
  | '.', _ => cutCharacter (.ok .dot) first rest
  | ',', _ => cutCharacter (.ok .comma) first rest
  | '(', _ => cutCharacter (.ok .leftParenthesis) first rest
  | ')', _ => cutCharacter (.ok .rightParenthesis) first rest
  | '\n', _ => cutCharacter (.ok .lineEnd) first rest
  | _, _ =>
      if first.isDigit then
        cutNumber false (first :: rest.takeWhile Char.isDigit) (rest.dropWhile Char.isDigit)
      else if isLetter first then
        cutRun Word.isCharacter (fun word => wordToken (String.ofList word)) first rest
      else if isBlank first then
        cutRun isInlineBlank (fun _ => .blank) first rest
      else
        cutCharacter (.error (.ofFront (first :: rest))) first rest

/-- A closed comment is the body, the closing mark and the rest. -/
theorem closeComment?_append
    {characters body after : List Char}
    (closed : closeComment? characters = some (body, after)) :
    body ++ '*' :: '/' :: after = characters := by
  fun_induction closeComment? characters generalizing body after with
  | case1 rest =>
      simp only [Option.some.injEq, Prod.mk.injEq] at closed
      rw [← closed.1, ← closed.2, List.nil_append]
  | case2 character rest unmarked inductionHypothesis =>
      obtain ⟨⟨inner, outer⟩, found, shape⟩ := Option.map_eq_some_iff.1 closed
      simp only [Prod.mk.injEq] at shape
      rw [← shape.1, ← shape.2, List.cons_append, inductionHypothesis found]
  | case3 =>
      simp at closed

/-- A cut number and its rest are what was given. -/
theorem cutNumber_taken_append_rest
    (negative : Bool)
    (whole rest : List Char) :
    (cutNumber negative whole rest).taken ++ (cutNumber negative whole rest).rest =
      (if negative then ['-'] else []) ++ whole ++ rest := by
  unfold cutNumber
  cases negative <;> simp only [Bool.false_eq_true, if_false, if_true] <;> split <;> simp

/-- Nothing is lost between a cut and its rest. -/
theorem cut_taken_append_rest
    (first : Char)
    (rest : List Char) :
    (cut first rest).taken ++ (cut first rest).rest = first :: rest := by
  unfold cut
  split
  · simp [cutLineComment, List.takeWhile_append_dropWhile]
  · rename_i more
    unfold cutBlockComment
    split
    · rename_i body after closed
      simp [closeComment?_append closed]
    · simp
  · unfold cutString
    have parts := List.takeWhile_append_dropWhile (p := (· != ']')) (l := rest)
    split
    · rename_i close after left
      rw [left] at parts
      simp [parts]
    · simp
  · unfold cutMinus
    have parts := List.takeWhile_append_dropWhile (p := Char.isDigit) (l := rest)
    split
    · simp [cutCharacter]
    · rename_i digit digits front
      rw [front] at parts
      rw [cutNumber_taken_append_rest]
      simpa using parts
  all_goals try simp [cutCharacter]
  split
  · rw [cutNumber_taken_append_rest]
    simp [List.takeWhile_append_dropWhile]
  · split
    · simp [cutRun, List.takeWhile_append_dropWhile]
    · split
      · simp [cutRun, List.takeWhile_append_dropWhile]
      · simp

/-- A number takes at least its sign and its digits before the point. -/
theorem cutNumber_taken_ne_nil
    (negative : Bool)
    {whole : List Char}
    (rest : List Char)
    (digits : whole ≠ []) :
    (cutNumber negative whole rest).taken ≠ [] := by
  unfold cutNumber
  cases negative <;> simp only [Bool.false_eq_true, if_false, if_true] <;> split <;>
    simp [digits]

/-- Every cut takes at least one character. -/
theorem cut_taken_ne_nil
    (first : Char)
    (rest : List Char) :
    (cut first rest).taken ≠ [] := by
  unfold cut
  split
  · simp [cutLineComment]
  · unfold cutBlockComment
    split <;> simp
  · unfold cutString
    split <;> simp
  · unfold cutMinus
    split
    · simp [cutCharacter]
    · exact cutNumber_taken_ne_nil _ _ (by simp)
  all_goals try simp [cutCharacter]
  split
  · exact cutNumber_taken_ne_nil _ _ (by simp)
  · split
    · simp [cutRun]
    · split <;> simp [cutRun]

/-- The rest of a cut is shorter than the text. -/
theorem cut_rest_length_lt
    (first : Char)
    (rest : List Char) :
    (cut first rest).rest.length < (first :: rest).length := by
  have whole := congrArg List.length (cut_taken_append_rest first rest)
  have positive := List.length_pos_iff.2 (cut_taken_ne_nil first rest)
  rw [List.length_append] at whole
  omega

end Lexeme

end LevelScript
