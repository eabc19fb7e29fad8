import LevelScript.Canonical
import LevelScript.Schema
import LevelScript.Session
import LevelScript.Toml.Conversion
import LevelScript.Toml.Document

namespace LevelScript

/-!
# Settings

The settings of the tool say what a redeclaration does, how levels are printed, and which
classes there are. They are read from a document; what it does not mention has its
default, and keys that mean nothing are left alone.
-/

/-- The settings of the tool. -/
structure Settings where
  policy : RedeclarationPolicy := .allow
  layout : PageLayout := {}
  classes : List (ClassSchema Float) := []
deriving Repr, DecidableEq

namespace RedeclarationPolicy

/-- The policy that a word stands for. -/
def ofText? :
    String →
    Option RedeclarationPolicy
  | "allow" => some .allow
  | "reject" => some .reject
  | _ => none

end RedeclarationPolicy

namespace Settings

open Toml (Fields NumberRange Value)

/-- A policy, as a word or as the only key of a table with an empty table below it. -/
def policy? :
    Value →
    Option RedeclarationPolicy
  | .string word => RedeclarationPolicy.ofText? word
  | .table _ [(word, content)] =>
      if content.isEmptyTable then RedeclarationPolicy.ofText? word else none
  | _ => none

/-- The kind of a parameter, as a word or as the only key of a table with nothing below it. -/
def kind? :
    Value →
    Option LiteralKind
  | .string word => LiteralKind.ofText? word
  | .table _ [(word, content)] =>
      if content.isEmptyTable || content.isEmptyArray then
        LiteralKind.ofText? word
      else
        none
  | _ => none

/-- The fields of a section; a date has none that a section could need. -/
def section?
    (names : List String) :
    Value →
    Option Fields
  | .array kind items =>
      if items.length ≤ names.length then
        Value.record? names (.array kind items)
      else
        none
  | .date _ => some []
  | value => value.record? names

/-- The section about running levels. -/
def loader?
    (value : Value) :
    Option RedeclarationPolicy := do
  let fields ← section? ["redeclaration"] value
  fields.optional? "redeclaration" .allow policy?

/-- The section about printing levels. -/
def layout?
    (value : Value) :
    Option PageLayout := do
  let fields ← section? ["group_statements", "indent"] value
  let grouped ← fields.optional? "group_statements" true Value.boolean?
  let indent ← fields.optional? "indent" 4 Value.natural?
  return ⟨grouped, indent⟩

/-- A vector: three numbers, and anything after them. -/
def vector?
    (value : Value) :
    Option (Vec3 Float) := do
  match ← value.items? with
  | x :: y :: z :: _ => return ⟨← x.number?, ← y.number?, ← z.number?⟩
  | _ => none

/-- All fields whose keys mean nothing hold numbers that can be read. -/
def ignores
    (names : List String)
    (fields : Fields) :
    Bool :=
  fields.all fun (key, value) => names.contains key || value.fits NumberRange.bits128

/-- The fields of a declaration by name, written as a table or in order. -/
def declaration?
    (names : List String)
    (value : Value) :
    Option Fields :=
  (value.record? names).filter (ignores names)

/-- The declaration of a connector. -/
def connector?
    (value : Value) :
    Option (ConnectorSchema Float) := do
  let fields ← declaration? ["name", "translation"] value
  let name ← fields.required? "name" Value.string?
  let position ← fields.optional? "translation" ⟨0, 0, 0⟩ vector?
  return ⟨⟨name⟩, position⟩

/-- The kinds of parameters of a constructor. -/
def params?
    (value : Value) :
    Option (List LiteralKind) := do
  (← value.items?).mapM kind?

/-- The declaration of a class. -/
def class?
    (value : Value) :
    Option (ClassSchema Float) := do
  let fields ← declaration? ["name", "opaque", "constructors", "connectors"] value
  let name ← fields.required? "name" Value.string?
  let isOther ← fields.optional? "opaque" false Value.boolean?
  let constructors ← fields.optional? "constructors" [] fun list => do
    (← list.items?).mapM params?
  let connectors ← fields.optional? "connectors" none fun list => do
    return some (← (← list.items?).mapM connector?)
  return ⟨⟨name⟩, !isOther, constructors, connectors⟩

/-- The declarations of all classes. -/
def classes?
    (value : Value) :
    Option (List (ClassSchema Float)) := do
  (← value.items?).mapM class?

/-- All values apart from the classes hold numbers that fit into 64 bits. -/
def fits
    (fields : Fields) :
    Bool :=
  fields.all fun (key, value) => key = "classes" || value.fits NumberRange.bits64

/-- The settings in the table of a document. -/
def ofFields?
    (fields : Fields) :
    Option Settings := do
  guard (fits fields)
  let policy ← fields.optional? "loader" .allow loader?
  let layout ← fields.optional? "format" {} layout?
  let classes ← fields.optional? "classes" [] classes?
  return ⟨policy, layout, classes⟩

/-- The settings that a document gives. -/
def parse?
    (source : String) :
    Option Settings :=
  (Toml.parse? source).bind ofFields?

end Settings

end LevelScript
