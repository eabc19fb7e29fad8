import LevelScript.Proofs.Geometry.Mating
import LevelScript.Proofs.Geometry.Rigid

namespace LevelScript

/-!
# Poses

Where connectors face along their own Z axes, an entity that starts at the origin is only ever
moved and turned half way round the X axis. Its transform is then determined by a position
and by whether it has been turned an odd number of times.
-/

/-- A position, and whether the entity there is turned half way round the X axis. -/
structure Pose (K : Type) where
  isFlipped : Bool
  position : Vec3 K
deriving Repr, DecidableEq

namespace Pose

open scoped Exact

variable {K : Type} [Field K]

/-- The pose in which a probe is built. -/
def origin : Pose K where
  isFlipped := false
  position := ⟨0, 0, 0⟩

/-- A vector of the entity's own space as it stands in the level's. -/
def turn
    (pose : Pose K)
    (vector : Vec3 K) :
    Vec3 K :=
  if pose.isFlipped then ⟨vector.x, -vector.y, -vector.z⟩ else vector

/-- The same turn at another position. -/
def withPosition
    (pose : Pose K)
    (position : Vec3 K) :
    Pose K :=
  { pose with position }

/-- The pose of an entity whose connector is mated to one of the base entity in its pose. -/
def mated
    (pose : Pose K)
    (base moved : Vec3 K) :
    Pose K where
  isFlipped := !pose.isFlipped
  position :=
    pose.position + pose.turn ⟨base.x - moved.x, base.y + moved.y, base.z + moved.z⟩

/-- The transform that a pose stands for. -/
def toTransform
    (pose : Pose K) :
    Transform K :=
  (if pose.isFlipped then Connector.flip else Transform.identity).withPosition pose.position

theorem toTransform_origin :
    (origin : Pose K).toTransform = Transform.identity :=
  rfl

theorem position_toTransform
    (pose : Pose K) :
    pose.toTransform.position = pose.position :=
  rfl

/-- Only the position of a pose is replaced with that of its transform. -/
theorem withPosition_toTransform
    (pose : Pose K)
    (position : Vec3 K) :
    pose.toTransform.withPosition position = (pose.withPosition position).toTransform :=
  rfl

/-- A vector from an entity is turned as the entity is. -/
theorem toTransform_mul_ofPosition
    (pose : Pose K)
    (vector : Vec3 K) :
    pose.toTransform * Transform.ofPosition vector =
      (pose.withPosition (pose.position + pose.turn vector)).toTransform := by
  obtain ⟨isFlipped, ⟨_, _, _⟩⟩ := pose
  obtain ⟨_, _, _⟩ := vector
  cases isFlipped <;>
    simp [toTransform, withPosition, turn, Transform.withPosition, Transform.identity,
      Connector.flip, Transform.ofPosition, Vec3.extend, Transform.mul_def, Transform.apply,
      add_comm]

/-- A half turn on the spot turns an entity once more. -/
theorem toTransform_mul_flip
    (pose : Pose K) :
    pose.toTransform * Connector.flip =
      toTransform { pose with isFlipped := !pose.isFlipped } := by
  obtain ⟨isFlipped, position⟩ := pose
  rw [Connector.mul_flip]
  cases isFlipped <;>
    simp [toTransform, Transform.withPosition, Transform.identity, Connector.flip,
      Transform.ofPosition, Vec3.extend]

/-- Mating turns an entity once more than the base, whatever its pose was before. -/
theorem matedTransform_toTransform
    (pose : Pose K)
    (base moved : Vec3 K) :
    Connector.matedTransform pose.toTransform (Connector.ofPosition base)
        (Connector.ofPosition moved) =
      (pose.mated base moved).toTransform := by
  have invertible : (Connector.ofPosition moved).offset.toMatrix.det ≠ 0 :=
    (Transform.IsRigid.ofPosition moved).det_ne_zero
  -- The mated transform is the one that takes the moved connector to the base's.
  rw [eq_comm, ← Connector.mul_offset_eq_iff invertible]
  unfold Connector.ofPosition
  simp only [toTransform_mul_ofPosition, toTransform_mul_flip]
  obtain ⟨isFlipped, ⟨x, y, z⟩⟩ := pose
  obtain ⟨baseX, baseY, baseZ⟩ := base
  obtain ⟨movedX, movedY, movedZ⟩ := moved
  congr 1
  cases isFlipped with
  | false =>
      simp only [mated, withPosition, turn, Bool.not_false, if_true, Bool.false_eq_true, if_false,
        Vec3.mk_add_mk, mk.injEq, Vec3.mk.injEq, true_and]
      exact ⟨by ring, by ring, by ring⟩
  | true =>
      simp only [mated, withPosition, turn, Bool.not_true, if_true, Bool.false_eq_true, if_false,
        Vec3.mk_add_mk, mk.injEq, Vec3.mk.injEq, true_and]
      exact ⟨by ring, by ring, by ring⟩

end Pose

end LevelScript
