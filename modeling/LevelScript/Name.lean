namespace LevelScript

/-!
# Names

Entities, aliases and connectors have plain names. A class has a dotted name, whose
segments are plain names separated by points.
-/

/-- A plain or dotted name. -/
structure Name where
  text : String
deriving Repr, DecidableEq, Inhabited

namespace Name

/-- Between two segments of a dotted name stands a point. -/
def separator : Char :=
  '.'

/-- The parts of a text between separators; there is one more part than separators. -/
def splitSegments :
    List Char →
    List (List Char)
  | [] => [[]]
  | character :: rest =>
      if character = separator then
        [] :: splitSegments rest
      else
        match splitSegments rest with
        | [] => [[character]]
        | segment :: more => (character :: segment) :: more

/-- The segments of a name, a single one for a plain name. -/
def segments
    (name : Name) :
    List String :=
  (splitSegments name.text.toList).map String.ofList

/-- The name has more than one segment. -/
def isDotted
    (name : Name) :
    Bool :=
  name.text.toList.contains separator

/-- The name of a child within the given name. -/
def child
    (parent inner : Name) :
    Name where
  text := parent.text ++ separator.toString ++ inner.text

/-- Names are ordered by their characters, hence also by their bytes. -/
instance : Ord Name where
  compare first second := compare first.text second.text

/-- A name with at least one segment has its parts joined by separators. -/
def joined? :
    List Name →
    Option Name
  | [] => none
  | first :: rest => some (rest.foldl child first)

end Name

end LevelScript
