import LevelScript.Toml.Value

namespace LevelScript.Toml

/-!
# Tables from assignments

A document is a list of sections. A section names a table by the keys on the way to it
and assigns values to dotted keys inside it. A part of a table that is finished cannot
be entered or assigned again.
-/

/-- A key with the keys in front of its dots. -/
structure DottedKey where
  leading : List String
  last : String
deriving Repr, DecidableEq

/-- A value for a key. -/
structure Assignment where
  key : DottedKey
  value : Value
deriving Repr

/-- The header of a section. -/
structure Header where
  key : DottedKey
  /-- The section adds one more table to an array of tables. -/
  isElement : Bool
deriving Repr, DecidableEq

/-- A header with the assignments below it. -/
structure Section where
  header : Header
  assignments : List Assignment
deriving Repr

/-- The parts of a document: what stands above the first header, and the sections. -/
structure Outline where
  assignments : List Assignment
  sections : List Section
deriving Repr

/-- A change of the fields of a table of some kind that may be refused. -/
abbrev Change := TableKind → Fields → Option Fields

namespace Fields

/--
The fields with a change made to the table that keys lead to.

Keys that lead nowhere yet get tables of the kind `made`. Tables are entered as `enter?`
allows, and what it answers is their kind from then on. Of an array of tables the last
one is entered.
-/
def changeAt?
    (enter? : TableKind → Option TableKind)
    (made : TableKind)
    (change : Change) :
    List String →
    Change
  | [], kind, fields => change kind fields
  | key :: rest, _, fields =>
      match fields.get? key with
      | none =>
          (changeAt? enter? made change rest made []).map fun inner =>
            fields.put key (.table made inner)
      | some (.table kind inner) =>
          (enter? kind).bind fun entered =>
            (changeAt? enter? made change rest entered inner).map fun changed =>
              fields.put key (.table entered changed)
      | some (.array .headers items) =>
          match items.getLast? with
          | some (.table kind inner) =>
              (changeAt? enter? made change rest kind inner).map fun changed =>
                fields.put key (.array .headers (items.dropLast ++ [.table kind changed]))
          | _ => none
      | some _ => none

/-- The fields with a value for a key that has none. -/
def add?
    (fields : Fields)
    (key : String)
    (value : Value) :
    Option Fields :=
  match fields.get? key with
  | none => some (fields.put key value)
  | some _ => none

/--
A table that a dotted key enters.

A table that was only implied by headers counts as made by dotted keys from then on, so
that no header of its own can follow.
-/
def enterForKey? :
    TableKind →
    Option TableKind
  | .dotted => some .dotted
  | .implied => some .dotted
  | .header => none
  | .inline => none

/-- A table that a header enters stays as it is. -/
def enterForHeader? :
    TableKind →
    Option TableKind
  | .dotted => some .dotted
  | .implied => some .implied
  | .header => some .header
  | .inline => none

/-- The fields with one value assigned; a dotted key ends in a table made by such keys. -/
def assign?
    (fields : Fields)
    (assignment : Assignment) :
    Option Fields :=
  let leading := assignment.key.leading
  changeAt? enterForKey? .dotted
    (fun kind inner =>
      if leading.isEmpty ∨ kind = .dotted then
        inner.add? assignment.key.last assignment.value
      else
        none)
    leading .header fields

/-- The fields with all values assigned in order. -/
def assignAll?
    (fields : Fields)
    (assignments : List Assignment) :
    Option Fields :=
  assignments.foldlM assign? fields

/-- The table of a header with its assignments. -/
def openTable?
    (key : String)
    (assignments : List Assignment)
    (fields : Fields) :
    Option Fields :=
  let filled (start : Fields) :=
    (start.assignAll? assignments).map fun inner => fields.put key (.table .header inner)
  match fields.get? key with
  | none => filled []
  | some (.table .implied inner) => filled inner
  | some _ => none

/-- One more table of an array with its assignments. -/
def openElement?
    (key : String)
    (assignments : List Assignment)
    (fields : Fields) :
    Option Fields :=
  let filled (items : List Value) :=
    (assignAll? [] assignments).map fun inner =>
      fields.put key (.array .headers (items ++ [.table .header inner]))
  match fields.get? key with
  | none => filled []
  | some (.array .headers items) => filled items
  | some _ => none

/-- The fields with the table of a section. -/
def addSection?
    (fields : Fields)
    (part : Section) :
    Option Fields :=
  let key := part.header.key
  let fill := if part.header.isElement then openElement? else openTable?
  changeAt? enterForHeader? .implied (fun _ inner => fill key.last part.assignments inner)
    key.leading .header fields

end Fields

namespace Outline

/-- The table that the parts of a document describe. -/
def fields?
    (outline : Outline) :
    Option Fields :=
  (Fields.assignAll? [] outline.assignments).bind fun root =>
    outline.sections.foldlM Fields.addSection? root

end Outline

end LevelScript.Toml
