import LevelScript.Literal
import LevelScript.Name
import LevelScript.Span

namespace LevelScript

/-!
# Statements

A level is a list of statements of four kinds. Statements of one kind may share a
keyword in the source; here each stands by itself.
-/

/-- The kinds of statements, one for each keyword that opens a block. -/
inductive StatementKind where
  | abbreviation
  | declaration
  | placement
  | connection
deriving Repr, DecidableEq, Inhabited

/-- One instruction, with the places of all names and values it was written with. -/
inductive Statement (α : Type) where
  /-- A short name stands for a class from here on. -/
  | abbreviation
      (short className : Located Name)
  /-- A new entity of a class is built from arguments. -/
  | declaration
      (name className : Located Name)
      (arguments : List (Located (Literal α)))
  /-- An entity is moved to a position, which may be relative to another entity's. -/
  | placement
      (name : Located Name)
      (position : Located (Vec3 α))
      (relativeTo : Option (Located Name))
  /-- An entity is moved so that two connectors meet. -/
  | connection
      (moved movedConnector base baseConnector : Located Name)
deriving Repr, DecidableEq, BEq, Inhabited

namespace StatementKind

/-- The keyword that opens a block of statements of this kind. -/
def keyword :
    StatementKind →
    String
  | .abbreviation => "using"
  | .declaration => "let"
  | .placement => "position"
  | .connection => "connect"

/-- How messages call a statement of this kind. -/
def description :
    StatementKind →
    String
  | .abbreviation => "`using` alias"
  | .declaration => "`let` declaration"
  | .placement => "`position` statement"
  | .connection => "`connect` statement"

end StatementKind

namespace Statement

/-- The kind of a statement. -/
def kind :
    Statement α →
    StatementKind
  | .abbreviation .. => .abbreviation
  | .declaration .. => .declaration
  | .placement .. => .placement
  | .connection .. => .connection

end Statement

end LevelScript
