import LevelScript.Geometry.Transform

namespace LevelScript

/-!
# Connectors

A connector is a socket of an entity, given by its pose in the entity's own space. Its Z
axis points outwards. Two connectors are mated when their poses have the same origin
and face each other, which is a half turn about the X axis.
-/

/-- The pose of a socket in the space of the entity that owns it. -/
structure Connector (α : Type) where
  offset : Transform α
deriving Repr, DecidableEq, BEq, Inhabited

namespace Connector

variable {α : Type} [Scalar α]

open Scalar (zero one)

/-- The half turn about the X axis, exact in every entry. -/
def flip : Transform α where
  xAxis := ⟨one, zero, zero, zero⟩
  yAxis := ⟨zero, -one, zero, zero⟩
  zAxis := ⟨zero, zero, -one, zero⟩
  wAxis := ⟨zero, zero, zero, one⟩

/-- A connector away from the entity's origin that faces along its Z axis. -/
def ofPosition
    (position : Vec3 α) :
    Connector α where
  offset := Transform.ofPosition position

/-- The pose of the moved entity in the base entity's space once the two are mated. -/
def alignInto
    (base moved : Connector α) :
    Transform α :=
  base.offset * flip * moved.offset.inverse

/-- The transform of the moved entity once its connector is mated to the base's. -/
def matedTransform
    (baseWorld : Transform α)
    (base moved : Connector α) :
    Transform α :=
  baseWorld * alignInto base moved

end Connector

end LevelScript
