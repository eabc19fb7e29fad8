namespace LevelScript

/-!
# Files

The files that a run may read, and where it may write, are given to it as a value. A run
answers with the files it wants written; it changes nothing by itself.
-/

/-- Why a file cannot be read or written. -/
inductive IoFault where
  /-- The file, or the directory it should be in, does not exist. -/
  | notFound
  /-- The bytes of the file are no UTF-8 text. -/
  | notText
deriving Repr, DecidableEq

/-- What a run can see of the files around it. -/
structure Disk where
  /-- The bytes of the file at a path, if there is one. -/
  contents : String → Option ByteArray
  /-- A file can be written at the path. -/
  accepts : String → Bool

namespace IoFault

/-- The message of a fault. -/
def message :
    IoFault →
    String
  | .notFound => "No such file or directory (os error 2)"
  | .notText => "stream did not contain valid UTF-8"

end IoFault

namespace Disk

/-- The file exists. -/
def contains
    (disk : Disk)
    (path : String) :
    Bool :=
  (disk.contents path).isSome

/-- The text of a file. -/
def readText
    (disk : Disk)
    (path : String) :
    Except IoFault String :=
  match disk.contents path with
  | none => .error .notFound
  | some bytes =>
      match String.fromUTF8? bytes with
      | none => .error .notText
      | some text => .ok text

/-- The files after a text has been written to a path. -/
def writeText
    (disk : Disk)
    (path text : String) :
    Except IoFault Disk :=
  if disk.accepts path then
    .ok { disk with
      contents := fun other => if other = path then some text.toUTF8 else disk.contents other }
  else
    .error .notFound

end Disk

end LevelScript
