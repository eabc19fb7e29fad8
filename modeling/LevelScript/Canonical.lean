import LevelScript.Text.Quoted
import LevelScript.Word

namespace LevelScript

/-!
# The canonical form of a program

Statements are printed in one form only, apart from two choices of layout. Whatever the
language cannot spell is refused: every printed text reads back as the same statements.
-/

/-- The choices of layout that the canonical form leaves open. -/
structure PageLayout where
  /-- Statements of one kind in a row share a keyword. -/
  grouped : Bool := true
  /-- The number of spaces in front of a statement that shares a keyword. -/
  indent : Nat := 4
deriving Repr, DecidableEq, Inhabited

/-- What has no spelling. -/
inductive FormatFault where
  /-- A string holds a closing bracket or a carriage return. -/
  | unrepresentableString (text : String)
  /-- A number is infinite or undefined. -/
  | nonFiniteNumber (value : Float)
  /-- A name is no identifier, or no identifiers separated by dots. -/
  | invalidIdentifier (text : String)
deriving Repr, DecidableEq

namespace FormatFault

/-- The message of a fault. -/
def message :
    FormatFault →
    String
  | .unrepresentableString text =>
      "string " ++ Text.quoted text ++ " cannot be written as an LDL literal"
  | .nonFiniteNumber value => "number " ++ Decimal.plainText value ++ " is not finite"
  | .invalidIdentifier text => "`" ++ text ++ "` is not a valid identifier"

end FormatFault

namespace Canonical

/-- A printed text, or the first thing in it that has no spelling. -/
abbrev Printed := Except FormatFault (List Char)

/-- A plain name. -/
def name
    (name : Name) :
    Printed :=
  if Word.isIdentifier name.text then
    .ok name.text.toList
  else
    .error (.invalidIdentifier name.text)

/-- A dotted name. -/
def dottedName
    (name : Name) :
    Printed :=
  if name.segments.all Word.isIdentifier then
    .ok name.text.toList
  else
    .error (.invalidIdentifier name.text)

/-- A number, with the shortest digits that read back. -/
def number
    (value : Float) :
    Printed :=
  if value.isFinite then
    .ok (Decimal.Layout.plain.characters value)
  else
    .error (.nonFiniteNumber value)

/-- A vector. -/
def vector
    (vector : Vec3 Float) :
    Printed := do
  let x ← number vector.x
  let y ← number vector.y
  let z ← number vector.z
  return "(".toList ++ x ++ ", ".toList ++ y ++ ", ".toList ++ z ++ ")".toList

/-- A character that a string literal cannot hold. -/
def isUnrepresentable
    (character : Char) :
    Bool :=
  character == ']' || character == '\r'

/-- A literal. -/
def literal :
    Literal Float →
    Printed
  | .string text =>
      if text.toList.any isUnrepresentable then
        .error (.unrepresentableString text)
      else
        .ok ("[".toList ++ text.toList ++ "]".toList)
  | .number value => number value
  | .vector value => vector value

/-- The arguments of a declaration, without the parentheses. -/
def arguments
    (literals : List (Located (Literal Float))) :
    Printed := do
  let texts ← literals.mapM fun argument => literal argument.value
  return (", ".toList).intercalate texts

/-- A statement without its keyword. -/
def pair :
    Statement Float →
    Printed
  | .abbreviation short className => do
      let short ← name short.value
      let className ← dottedName className.value
      return short ++ " as ".toList ++ className
  | .declaration entity className literals => do
      let arguments ← arguments literals
      let entity ← name entity.value
      let className ← dottedName className.value
      return entity ++ " be ".toList ++ className ++ "(".toList ++ arguments ++ ")".toList
  | .placement entity position relativeTo => do
      let entity ← name entity.value
      let position ← vector position.value
      let origin ←
        match relativeTo with
        | none => pure []
        | some other => (" from ".toList ++ ·) <$> name other.value
      return entity ++ " at ".toList ++ position ++ origin
  | .connection moved movedConnector base baseConnector => do
      let moved ← name moved.value
      let movedConnector ← name movedConnector.value
      let base ← name base.value
      let baseConnector ← name baseConnector.value
      return moved ++ ".".toList ++ movedConnector ++ " to ".toList ++
        base ++ ".".toList ++ baseConnector

/-- What stands between a statement and the one before it. -/
def opening
    (layout : PageLayout)
    (previous : Option StatementKind)
    (kind : StatementKind) :
    List Char :=
  if layout.grouped && previous = some kind then
    ",\n".toList ++ List.replicate layout.indent ' '
  else
    (if previous.isSome then ['\n'] else []) ++ kind.keyword.toList ++ [' ']

/-- The statements that follow one of the given kind, if any does. -/
def following
    (layout : PageLayout)
    (previous : Option StatementKind) :
    List (Located (Statement Float)) →
    Printed
  | [] => .ok (if previous.isSome then ['\n'] else [])
  | statement :: rest => do
      let kind := statement.value.kind
      let pair ← pair statement.value
      let rest ← following layout (some kind) rest
      return opening layout previous kind ++ pair ++ rest

/-- The canonical text of a program. -/
def format
    (layout : PageLayout)
    (statements : List (Located (Statement Float))) :
    Except FormatFault String :=
  (following layout none statements).map String.ofList

/-- The canonical text of one literal. -/
def literalText
    (value : Literal Float) :
    Except FormatFault String :=
  (literal value).map String.ofList

end Canonical

end LevelScript
