namespace LevelScript.Toml

/-!
# Values of a TOML document

A document is a table. How a table or an array was written decides whether later parts
of the document may still add to it, so each keeps that with it.
-/

/-- How a table came to be. -/
inductive TableKind where
  /-- Written between braces; nothing can be added to it. -/
  | inline
  /-- Opened by a header of its own. -/
  | header
  /-- Made for the leading keys of a dotted key, or entered by them. -/
  | dotted
  /-- Made for the leading keys of a header. -/
  | implied
deriving Repr, DecidableEq

/-- How an array came to be. -/
inductive ArrayKind where
  /-- Written between brackets; nothing can be added to it. -/
  | inline
  /-- Built from tables with headers in double brackets. -/
  | headers
deriving Repr, DecidableEq

/-- A value of a document. -/
inductive Value where
  | string (text : String)
  /-- None if what is written like a whole number counts nothing. -/
  | integer (value : Option Int)
  /-- None if the number is larger than any finite one. -/
  | float (value : Option Float)
  | boolean (value : Bool)
  | date (text : String)
  | array (kind : ArrayKind) (items : List Value)
  | table (kind : TableKind) (fields : List (String × Value))
deriving Repr

/-- The keys of a table with their values, in order. -/
abbrev Fields := List (String × Value)

namespace Fields

/-- The value of a key. -/
def get?
    (fields : Fields)
    (key : String) :
    Option Value :=
  (fields.find? fun field => field.1 = key).map Prod.snd

/-- The fields with the value of a key replaced, or added at the end. -/
def put
    (key : String)
    (value : Value) :
    Fields →
    Fields
  | [] => [(key, value)]
  | field :: rest =>
      if field.1 = key then
        (key, value) :: rest
      else
        field :: put key value rest

end Fields

end LevelScript.Toml
