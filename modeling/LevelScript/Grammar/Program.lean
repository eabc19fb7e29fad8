import LevelScript.Diagnostic
import LevelScript.Grammar.Place
import LevelScript.Lexeme

namespace LevelScript

/-!
# Programs

A program is a row of blocks. It is read from its significant tokens in one pass, place by
place; trivia do not count. Lexical faults are reported all together and before the
grammar is looked at, of which only the first mistake is reported.
-/

/-- Where and why a row of tokens ceases to be the beginning of a program. -/
structure Mistake where
  place : Place
  /-- The token that cannot follow, or none if the source ends too early. -/
  found : Option (Located Token)
deriving Repr, DecidableEq

namespace LexicalFault

/-- The code of a lexical fault. -/
def code :
    LexicalFault →
    ErrorCode
  | .unclosedString => .e001
  | .strayCharacter _ => .e002
  | .unexpectedEnd => .e002
  | .numberOutOfRange => .e003
  | .unclosedComment => .e004

/-- The message of a lexical fault. -/
def message :
    LexicalFault →
    String
  | .unclosedString => "unterminated string literal"
  | .strayCharacter character => "unexpected character `" ++ character.toString ++ "`"
  | .unexpectedEnd => "unexpected end of input"
  | .numberOutOfRange => "number out of range"
  | .unclosedComment => "unterminated block comment"

/-- How a lexical fault can be mended. -/
def help? :
    LexicalFault →
    Option String
  | .unclosedString => some "add closing `]`"
  | .strayCharacter _ => none
  | .unexpectedEnd => none
  | .numberOutOfRange => some "numbers must fit in a 64-bit float"
  | .unclosedComment => some "add closing `*/`"

/-- Where a lexical fault is shown: at the whole lexeme, or one byte wide behind the source. -/
def shownSpan
    (fault : Located LexicalFault) :
    Span :=
  match fault.value with
  | .unexpectedEnd => Span.ofWidth fault.span.start 1
  | _ => fault.span

/-- What is found in front of the end of the source is shown where it is found. -/
theorem shownSpan_eq
    {fault : Located LexicalFault}
    (notEnd : fault.value ≠ .unexpectedEnd) :
    shownSpan fault = fault.span := by
  unfold shownSpan
  split
  case h_1 isEnd =>
    exact (notEnd isEnd).elim
  case h_2 =>
    rfl

/-- A lexical fault as a diagnostic that points at the place where it is shown. -/
def diagnostic
    (fault : Located LexicalFault) :
    Diagnostic where
  message := fault.value.message
  code := some fault.value.code
  labels := [⟨shownSpan fault, fault.value.code.description, true⟩]
  help := fault.value.help?

end LexicalFault

namespace Mistake

/-- A mistake as a diagnostic; an early end is reported at the end of the source. -/
def diagnostic
    (mistake : Mistake)
    (sourceEnd : Nat) :
    Diagnostic :=
  let expected := "expected " ++ mistake.place.expected.text
  let help :=
    mistake.place.within?.map fun kind => "while parsing a " ++ kind.description
  match mistake.found with
  | some token =>
      {
        message := expected ++ ", found `" ++ token.value.display ++ "`"
        code := some .e100
        labels := [⟨token.span, expected, true⟩]
        help
      }
  | none =>
      {
        message := expected ++ ", found end of input"
        code := some .e101
        labels := [⟨Span.point sourceEnd, expected, true⟩]
        help
      }

end Mistake

namespace Program

/-- The statements of a program that goes on from a place with the given tokens. -/
def read
    (place : Place) :
    List (Located Token) →
    Except Mistake (List (Located (Statement Float)))
  | [] =>
      match place.ending? with
      | some statements => .ok statements
      | none => .error ⟨place, none⟩
  | token :: rest =>
      match place.extend? token with
      | some next => read next rest
      | none =>
          match place.reopen? token.value with
          | some (statements, next) => (read next rest).map (statements ++ ·)
          | none => .error ⟨place, some token⟩

/-- The tokens that carry meaning. -/
def significant
    (tokens : List (Located Token)) :
    List (Located Token) :=
  tokens.filter fun token => !token.value.isTrivia

/-- The statements of a row of tokens, trivia included. -/
def ofTokens
    (tokens : List (Located Token)) :
    Except Mistake (List (Located (Statement Float))) :=
  read .outside (significant tokens)

/-- The offset at which a row of tokens ends. -/
def endOffset
    (tokens : List (Located Token)) :
    Nat :=
  tokens.getLast?.elim 0 fun token => token.span.stop

/-- A source that was read without an error. -/
structure Parsed where
  /-- The number of tokens, trivia included. -/
  tokenCount : Nat
  statements : List (Located (Statement Float))

/-- The statements of a source text, and the number of its tokens. -/
def parseTokens
    (source : String) :
    Except SyntaxError Parsed :=
  match Lexeme.tokenize source with
  | .error faults => .error ⟨faults.map LexicalFault.diagnostic⟩
  | .ok tokens =>
      match ofTokens tokens with
      | .error mistake => .error ⟨[mistake.diagnostic (endOffset tokens)]⟩
      | .ok statements => .ok ⟨tokens.length, statements⟩

/-- The statements of a source text. -/
def parse
    (source : String) :
    Except SyntaxError (List (Located (Statement Float))) :=
  (parseTokens source).map Parsed.statements

end Program

end LevelScript
