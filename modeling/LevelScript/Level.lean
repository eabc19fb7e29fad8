import LevelScript.Entity

namespace LevelScript

/-!
# Levels

A level holds its entities in the order of their declarations. A name that was declared
more than once stands for the last entity declared with it.
-/

/-- An entity with the name and the class it was declared with. -/
structure PlacedEntity (α : Type) where
  name : Name
  /-- The class itself, not a short name for it. -/
  className : Name
  entity : Entity α

/-- The result of running all statements of a program. -/
structure Level (α : Type) where
  entities : List (PlacedEntity α)
  /-- The position of the entity that a name stands for. -/
  bindings : Table Nat

namespace PlacedEntity

/-- The transform of the entity to the level's space. -/
def transform
    (placed : PlacedEntity α) :
    Transform α :=
  placed.entity.transform

/-- The position of the entity. -/
def position
    (placed : PlacedEntity α) :
    Vec3 α :=
  placed.transform.position

/-- The connectors of the entity, if it can be connected. -/
def connectors
    (placed : PlacedEntity α) :
    Option (Connectors α) :=
  placed.entity.connectors

/-- The entity moved to another transform. -/
def withTransform
    (placed : PlacedEntity α)
    (transform : Transform α) :
    PlacedEntity α :=
  { placed with entity := { placed.entity with transform } }

end PlacedEntity

namespace Level

/-- The position in the level of the entity that a name stands for. -/
def findIndex?
    (level : Level α)
    (name : Name) :
    Option Nat :=
  level.bindings.get? name

/-- The entity that a name stands for. -/
def find?
    (level : Level α)
    (name : Name) :
    Option (PlacedEntity α) :=
  (level.findIndex? name).bind fun index => level.entities[index]?

/-- The number of entities. -/
def size
    (level : Level α) :
    Nat :=
  level.entities.length

/-- The level has no entity. -/
def isEmpty
    (level : Level α) :
    Bool :=
  level.entities.isEmpty

end Level

end LevelScript
