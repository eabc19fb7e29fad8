import LevelScript.Geometry.Connector
import LevelScript.Table

namespace LevelScript

/-!
# Entities

A level places entities. Of an entity it knows the transform to the level's space and,
if the entity can be connected at all, its connectors by name.
-/

/-- The connectors of an entity by name. -/
abbrev Connectors (α : Type) := Table (Connector α)

/-- An object that can be placed in a level. -/
structure Entity (α : Type) where
  transform : Transform α
  /-- None if the entity cannot be connected. -/
  connectors : Option (Connectors α)

end LevelScript
