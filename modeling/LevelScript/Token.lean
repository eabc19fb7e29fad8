import LevelScript.Decimal.Layout
import LevelScript.Statement

namespace LevelScript

/-!
# Tokens

A source text is a row of tokens. Blanks, line ends and comments are tokens too, which
carry no meaning of their own: they are trivia.
-/

/-- The reserved words. -/
inductive Keyword where
  | usingWord
  | asWord
  | letWord
  | beWord
  | positionWord
  | atWord
  | fromWord
  | connectWord
  | toWord
deriving Repr, DecidableEq, Inhabited

/-- The smallest units of a source text. -/
inductive Token where
  | keyword (word : Keyword)
  /-- The text between square brackets, its line ends all written as line feeds. -/
  | string (text : String)
  | number (value : Float)
  | identifier (name : String)
  | dot
  | comma
  | leftParenthesis
  | rightParenthesis
  /-- The text from two slashes on to the end of the line. -/
  | lineComment (text : String)
  /-- The text between the two marks of the comment. -/
  | blockComment (text : String)
  | blank
  | lineEnd
deriving Repr, DecidableEq, Inhabited

namespace Keyword

/-- All reserved words. -/
def all : List Keyword :=
  [.usingWord, .asWord, .letWord, .beWord, .positionWord, .atWord, .fromWord,
    .connectWord, .toWord]

/-- The spelling of a reserved word. -/
def text :
    Keyword →
    String
  | .usingWord => "using"
  | .asWord => "as"
  | .letWord => "let"
  | .beWord => "be"
  | .positionWord => "position"
  | .atWord => "at"
  | .fromWord => "from"
  | .connectWord => "connect"
  | .toWord => "to"

/-- The reserved word with the given spelling. -/
def ofText?
    (text : String) :
    Option Keyword :=
  all.find? (fun word => word.text = text)

/-- The kind of the statements in a block that the word opens. -/
def block? :
    Keyword →
    Option StatementKind
  | .usingWord => some .abbreviation
  | .letWord => some .declaration
  | .positionWord => some .placement
  | .connectWord => some .connection
  | _ => none

end Keyword

namespace Token

/-- The token may stand anywhere without a change of meaning. -/
def isTrivia :
    Token →
    Bool
  | .lineComment _ => true
  | .blockComment _ => true
  | .blank => true
  | .lineEnd => true
  | _ => false

/-- How messages show a token. -/
def display :
    Token →
    String
  | .keyword word => word.text
  | .string text => "[" ++ text ++ "]"
  | .number value => Decimal.plainText value
  | .identifier name => name
  | .dot => "."
  | .comma => ","
  | .leftParenthesis => "("
  | .rightParenthesis => ")"
  | .lineComment text => "//" ++ text
  | .blockComment text => "/*" ++ text ++ "*/"
  | .blank => " "
  | .lineEnd => "\\n"

end Token

end LevelScript
