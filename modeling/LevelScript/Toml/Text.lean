namespace LevelScript.Toml

/-!
# Quoted text

Text stands between single or double quotes, or between three of either kind if it runs
over several lines. Only double quotes know escapes.
-/

/-- A character that may stand in a comment or a text as it is. -/
def isPlain
    (character : Char) :
    Bool :=
  character = '\t' || (0x20 ≤ character.toNat && character.toNat ≠ 0x7f)

/-- A character that may stand in a text of several lines as it is. -/
def isPlainOrLineFeed
    (character : Char) :
    Bool :=
  character = '\n' || isPlain character

/-- The number that hexadecimal digits count. -/
def hexNumber?
    (digits : List Char) :
    Option Nat :=
  digits.foldlM
    (fun number digit =>
      if digit.isDigit then
        some (16 * number + (digit.toNat - '0'.toNat))
      else if 'a' ≤ digit.toLower ∧ digit.toLower ≤ 'f' then
        some (16 * number + (digit.toLower.toNat - 'a'.toNat + 10))
      else
        none)
    0

/-- The character with the code point that hexadecimal digits count. -/
def hexCharacter?
    (digits : List Char) :
    Option Char :=
  (hexNumber? digits).bind fun code =>
    if code.isValidChar then some (Char.ofNat code) else none

/-- The character that a letter after a backslash stands for. -/
def escaped? :
    Char →
    Option Char
  | 'b' => some '\x08'
  | 't' => some '\t'
  | 'n' => some '\n'
  | 'f' => some '\x0c'
  | 'r' => some '\r'
  | 'e' => some '\x1b'
  | '"' => some '"'
  | '\\' => some '\\'
  | _ => none

/-- Where in a text with escapes a character stands. -/
inductive EscapePlace where
  | text
  /-- Between a backslash and the end of its line. -/
  | beforeLineEnd
  /-- After a backslash and the end of its line, where blanks are left out. -/
  | afterLineEnd
deriving DecidableEq

/-- A blank within a line. -/
def isSpace
    (character : Char) :
    Bool :=
  character = ' ' || character = '\t'

/-- A text with its escapes replaced by what they stand for. -/
def unescape?
    (isAllowed : Char → Bool)
    (place : EscapePlace) :
    List Char →
    Option (List Char)
  | [] => if place = .beforeLineEnd then none else some []
  | '\\' :: 'x' :: a :: b :: rest => do
      if place = .beforeLineEnd then none
      let character ← hexCharacter? [a, b]
      let others ← unescape? isAllowed .text rest
      return character :: others
  | '\\' :: 'u' :: a :: b :: c :: d :: rest => do
      if place = .beforeLineEnd then none
      let character ← hexCharacter? [a, b, c, d]
      let others ← unescape? isAllowed .text rest
      return character :: others
  | '\\' :: 'U' :: a :: b :: c :: d :: e :: f :: g :: h :: rest => do
      if place = .beforeLineEnd then none
      let character ← hexCharacter? [a, b, c, d, e, f, g, h]
      let others ← unescape? isAllowed .text rest
      return character :: others
  | '\\' :: mark :: rest => do
      if place = .beforeLineEnd then none
      if mark = '\n' && isAllowed '\n' then
        unescape? isAllowed .afterLineEnd rest
      else if (isSpace mark || mark = '\r') && isAllowed '\n' then
        unescape? isAllowed .beforeLineEnd rest
      else
        let character ← escaped? mark
        let others ← unescape? isAllowed .text rest
        return character :: others
  | character :: rest => do
      match place with
      | .beforeLineEnd =>
          if character = '\n' then
            unescape? isAllowed .afterLineEnd rest
          else if isSpace character || character = '\r' then
            unescape? isAllowed .beforeLineEnd rest
          else
            none
      | .afterLineEnd =>
          if isSpace character || character = '\n' || character = '\r' then
            unescape? isAllowed .afterLineEnd rest
          else if isAllowed character && character ≠ '\\' then
            let others ← unescape? isAllowed .text rest
            return character :: others
          else
            none
      | .text =>
          if isAllowed character && character ≠ '\\' then
            let others ← unescape? isAllowed .text rest
            return character :: others
          else
            none

/-- Every carriage return stands in front of a line feed. -/
def hasWholeLineEnds :
    List Char →
    Bool
  | [] => true
  | '\r' :: '\n' :: rest => hasWholeLineEnds rest
  | '\r' :: _ => false
  | _ :: rest => hasWholeLineEnds rest

/-- A character that may stand in a text of several lines whose line ends are whole. -/
def isPlainOrLineEnd
    (character : Char) :
    Bool :=
  character = '\r' || isPlainOrLineFeed character

/-- What is left of a text and what follows it. -/
abbrev Split := List Char × List Char

/-- The text with one more character in front of what was found of it. -/
def Split.cons
    (character : Char)
    (split : Split) :
    Split :=
  (character :: split.1, split.2)

/-- A text up to a quote in the same line, and what follows the quote. -/
def lineUntil?
    (quote : Char)
    (escapes : Bool) :
    List Char →
    Option Split
  | [] => none
  | character :: rest =>
      if character = quote then
        some ([], rest)
      else if character = '\\' && escapes then
        match rest with
        | [] => none
        | next :: more =>
            (lineUntil? quote escapes more).map fun split =>
              (split.cons next).cons character
      else if character = '\n' then
        none
      else
        (lineUntil? quote escapes rest).map (Split.cons character)

/--
A text up to three quotes, and what follows them.

One or two more quotes in front of the three still belong to the text.
-/
def linesUntil?
    (quote : Char)
    (escapes : Bool) :
    List Char →
    Option Split
  | [] => none
  | character :: rest =>
      if character = quote then
        match rest with
        | second :: third :: more =>
            if second = quote ∧ third = quote then
              let extra := (more.takeWhile (· = quote)).take 2
              some (extra, more.drop extra.length)
            else
              (linesUntil? quote escapes (second :: third :: more)).map (Split.cons character)
        | _ => none
      else if character = '\\' && escapes then
        match rest with
        | [] => none
        | next :: more =>
            (linesUntil? quote escapes more).map fun split =>
              (split.cons next).cons character
      else
        (linesUntil? quote escapes rest).map (Split.cons character)

/-- The text without a line end at its start. -/
def dropFirstLineEnd :
    List Char →
    List Char
  | '\n' :: rest => rest
  | '\r' :: '\n' :: rest => rest
  | characters => characters

/-- The text between single quotes. -/
def literal?
    (characters : List Char) :
    Option Split := do
  let (body, rest) ← lineUntil? '\'' false characters
  if body.all isPlain then some (body, rest) else none

/-- The text between double quotes. -/
def basic?
    (characters : List Char) :
    Option Split := do
  let (body, rest) ← lineUntil? '"' true characters
  let text ← unescape? isPlain .text body
  return (text, rest)

/-- The text between three single quotes. -/
def multilineLiteral?
    (characters : List Char) :
    Option Split := do
  let (body, rest) ← linesUntil? '\'' false (dropFirstLineEnd characters)
  if body.all isPlainOrLineEnd && hasWholeLineEnds body then some (body, rest) else none

/-- The text between three double quotes. -/
def multilineBasic?
    (characters : List Char) :
    Option Split := do
  let (body, rest) ← linesUntil? '"' true (dropFirstLineEnd characters)
  if hasWholeLineEnds body then
    let text ← unescape? isPlainOrLineEnd .text body
    return (text, rest)
  else
    none

end LevelScript.Toml
