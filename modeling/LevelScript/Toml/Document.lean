import LevelScript.Toml.Scalar
import LevelScript.Toml.Section
import LevelScript.Toml.Text

namespace LevelScript.Toml

/-!
# Documents

A document is read from its characters part by part. Each reader answers with what it
has read and the characters that follow, or with nothing if the text is malformed.
-/

/-- What a reader has found in front of a text, and the rest of the text. -/
abbrev Reader (β : Type) := List Char → Option (β × List Char)

/-- How deep arrays and tables may be nested, and how many keys a dotted key may have. -/
def nestingLimit : Nat := 80

/-- The text without the blanks at the start of its line. -/
def skipSpaces
    (characters : List Char) :
    List Char :=
  characters.dropWhile isSpace

/-- The text without the blanks, line ends and comments at its start. -/
def skipBlank
    (inComment : Bool) :
    List Char →
    List Char
  | [] => []
  | '\r' :: '\n' :: rest => skipBlank false rest
  | character :: rest =>
      if character = '\n' then
        skipBlank false rest
      else if inComment then
        if isPlain character then skipBlank true rest else character :: rest
      else if character = '#' then
        skipBlank true rest
      else if isSpace character then
        skipBlank false rest
      else
        character :: rest

/-- What follows a line that has nothing more to say. -/
def endLine?
    (characters : List Char) :
    Option (List Char) :=
  let afterComment :=
    match skipSpaces characters with
    | '#' :: rest => rest.dropWhile isPlain
    | rest => rest
  match afterComment with
  | [] => some []
  | '\n' :: rest => some rest
  | '\r' :: '\n' :: rest => some rest
  | _ => none

/-- A character of a key without quotes. -/
def isKeyCharacter
    (character : Char) :
    Bool :=
  character.isAlphanum || character = '_' || character = '-'

/-- A text that a reader of quoted text has found. -/
def quotedText
    (read : List Char → Option Split) :
    Reader String :=
  fun characters => (read characters).map fun split => (String.ofList split.1, split.2)

/-- A key without dots. -/
def key? : Reader String
  | '"' :: rest => quotedText basic? rest
  | '\'' :: rest => quotedText literal? rest
  | characters =>
      match characters.takeWhile isKeyCharacter with
      | [] => none
      | word => some (String.ofList word, characters.dropWhile isKeyCharacter)

/-- The keys behind dots, fewer of them than the limit. -/
def keysBehind? :
    Nat →
    Reader (List String)
  | 0, _ => none
  | limit + 1, characters =>
      match skipSpaces characters with
      | '.' :: rest => do
          let (key, behind) ← key? (skipSpaces rest)
          let (keys, after) ← keysBehind? limit behind
          return (key :: keys, after)
      | rest => some ([], rest)

/-- Keys with dots between them, and no blanks behind them. -/
def dottedKey? : Reader DottedKey :=
  fun characters => do
    let (first, behind) ← key? characters
    let (others, rest) ← keysBehind? nestingLimit behind
    let keys := first :: others
    return (⟨keys.dropLast, keys.getLast?.getD first⟩, rest)

/-- A character behind a scalar without quotes. -/
def endsScalar
    (character : Char) :
    Bool :=
  [',', '[', ']', '\x7b', '\x7d', '=', '#', '\r', '\n'].contains character

/-- The text without the blanks at its end. -/
def dropFinalSpaces
    (characters : List Char) :
    List Char :=
  (characters.reverse.dropWhile isSpace).reverse

/-- A scalar without quotes, which may have blanks between its characters. -/
def bareScalar? : Reader Value :=
  fun characters =>
    let text := characters.takeWhile fun character => !endsScalar character
    let rest := characters.dropWhile fun character => !endsScalar character
    (scalar? (dropFinalSpaces text)).map fun value => (value, rest)

/-- A value that is no array and no table. -/
def scalarValue? : Reader Value
  | '"' :: '"' :: '"' :: rest =>
      (quotedText multilineBasic? rest).map fun (text, after) => (.string text, after)
  | '"' :: rest =>
      (quotedText basic? rest).map fun (text, after) => (.string text, after)
  | '\'' :: '\'' :: '\'' :: rest =>
      (quotedText multilineLiteral? rest).map fun (text, after) => (.string text, after)
  | '\'' :: rest =>
      (quotedText literal? rest).map fun (text, after) => (.string text, after)
  | characters => bareScalar? characters

mutual

/-- A value nested at most `depth` deep, as long as `fuel` lasts. -/
def value? :
    Nat →
    Nat →
    Reader Value
  | 0, _, _ => none
  | fuel + 1, depth, characters =>
      match characters, depth with
      | '[' :: _, 0 => none
      | '[' :: rest, depth + 1 => do
          let (items, after) ← items? fuel depth (skipBlank false rest)
          return (.array .inline items, after)
      | '\x7b' :: _, 0 => none
      | '\x7b' :: rest, depth + 1 => do
          let (assignments, after) ← members? fuel depth (skipBlank false rest)
          let fields ← Fields.assignAll? [] assignments
          return (.table .inline fields, after)
      | _, _ => scalarValue? characters

/-- The items of an array up to its closing bracket. -/
def items? :
    Nat →
    Nat →
    Reader (List Value)
  | 0, _, _ => none
  | _ + 1, _, ']' :: rest => some ([], rest)
  | fuel + 1, depth, characters => do
      let (item, behind) ← value? fuel depth characters
      match skipBlank false behind with
      | ']' :: rest => return ([item], rest)
      | ',' :: rest =>
          let (others, after) ← items? fuel depth (skipBlank false rest)
          return (item :: others, after)
      | _ => none

/-- The assignments of a table between braces up to the closing one. -/
def members? :
    Nat →
    Nat →
    Reader (List Assignment)
  | 0, _, _ => none
  | _ + 1, _, '\x7d' :: rest => some ([], rest)
  | fuel + 1, depth, characters => do
      let (member, behind) ← assignment? fuel depth (skipBlank false) characters
      match skipBlank false behind with
      | '\x7d' :: rest => return ([member], rest)
      | ',' :: rest =>
          let (others, after) ← members? fuel depth (skipBlank false rest)
          return (member :: others, after)
      | _ => none

/-- A key and its value; `skip` leaves out what may stand around the equals sign. -/
def assignment? :
    Nat →
    Nat →
    (List Char → List Char) →
    Reader Assignment
  | 0, _, _, _ => none
  | fuel + 1, depth, skip, characters => do
      let (key, behind) ← dottedKey? characters
      match skip behind with
      | '=' :: rest =>
          let (value, after) ← value? fuel depth (skip rest)
          return (⟨key, value⟩, after)
      | _ => none

end

/-- A header between its brackets. -/
def header? : Reader Header
  | '[' :: '[' :: rest => do
      let (key, behind) ← dottedKey? (skipSpaces rest)
      match behind with
      | ']' :: ']' :: after => return (⟨key, true⟩, after)
      | _ => none
  | '[' :: rest => do
      let (key, behind) ← dottedKey? (skipSpaces rest)
      match behind with
      | ']' :: after => return (⟨key, false⟩, after)
      | _ => none
  | _ => none

/-- The parts of a document, as long as `fuel` lasts. -/
def outline? :
    Nat →
    List Char →
    Option Outline
  | 0, _ => none
  | fuel + 1, characters =>
      match skipBlank false characters with
      | [] => some ⟨[], []⟩
      | '[' :: rest => do
          let (header, behind) ← header? ('[' :: rest)
          let after ← endLine? behind
          let outline ← outline? fuel after
          return ⟨[], ⟨header, outline.assignments⟩ :: outline.sections⟩
      | line => do
          let (assignment, behind) ←
            assignment? (3 * line.length + 3) nestingLimit skipSpaces line
          let after ← endLine? behind
          let outline ← outline? fuel after
          return ⟨assignment :: outline.assignments, outline.sections⟩

/-- The text without a mark of its byte order. -/
def skipByteOrderMark :
    List Char →
    List Char
  | '\ufeff' :: rest => rest
  | characters => characters

/-- The table that a document describes. -/
def parse?
    (source : String) :
    Option Fields :=
  let characters := skipByteOrderMark source.toList
  (outline? (characters.length + 1) characters).bind Outline.fields?

end LevelScript.Toml
