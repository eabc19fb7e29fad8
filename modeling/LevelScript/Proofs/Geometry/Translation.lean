import LevelScript.Proofs.Geometry.Rigid

namespace LevelScript

/-!
# Translated transforms

A translation moves the position of an affine transform and nothing else. What is computed
from a transform by products on its right is translated with it.
-/

open scoped Exact

variable {K : Type} [Field K]

theorem Vec3.add_left_comm
    (first second third : Vec3 K) :
    first + (second + third) = second + (first + third) := by
  obtain ⟨_, _, _⟩ := first
  obtain ⟨_, _, _⟩ := second
  obtain ⟨_, _, _⟩ := third
  simp only [mk_add_mk, Vec3.mk.injEq]
  refine ⟨?_, ?_, ?_⟩ <;> ring

namespace Transform

/-- The transform moved by a vector of the level's space. -/
def translated
    (distance : Vec3 K)
    (transform : Transform K) :
    Transform K :=
  ofPosition distance * transform

protected theorem mul_assoc
    (first second third : Transform K) :
    first * second * third = first * (second * third) := by
  apply toMatrix_injective
  simp only [toMatrix_mul, Matrix.mul_assoc]

namespace IsAffine

variable {transform : Transform K} (isAffine : transform.IsAffine) (distance : Vec3 K)

include isAffine

theorem withPosition
    (position : Vec3 K) :
    (transform.withPosition position).IsAffine :=
  isAffine

/-- Only the position of an affine transform is moved. -/
theorem translated_eq :
    transform.translated distance =
      transform.withPosition (distance + transform.position) := by
  obtain ⟨⟨_, _, _, _⟩, ⟨_, _, _, _⟩, ⟨_, _, _, _⟩, ⟨_, _, _, _⟩⟩ := transform
  simp only [IsAffine, rowW, Vec4.mk.injEq] at isAffine
  obtain ⟨rfl, rfl, rfl, rfl⟩ := isAffine
  obtain ⟨_, _, _⟩ := distance
  simp [Transform.translated, mul_def, apply, ofPosition, Transform.withPosition, position,
    Vec4.truncate, Vec3.extend, add_comm]

theorem position_translated :
    (transform.translated distance).position = distance + transform.position := by
  rw [isAffine.translated_eq]
  rfl

/-- The position that an affine transform is moved to is translated with it. -/
theorem translated_withPosition
    (position : Vec3 K) :
    (transform.withPosition position).translated distance =
      (transform.translated distance).withPosition (distance + position) := by
  rw [(isAffine.withPosition position).translated_eq, isAffine.translated_eq]
  rfl

end IsAffine

end Transform

namespace Connector

theorem isAffine_flip :
    (flip : Transform K).IsAffine :=
  rfl

/-- Mating keeps the affine form, if the moved connector's offset can be undone. -/
theorem isAffine_matedTransform
    {world : Transform K}
    {base moved : Connector K}
    (affineWorld : world.IsAffine)
    (affineBase : base.offset.IsAffine)
    (affineMoved : moved.offset.IsAffine)
    (invertible : moved.offset.toMatrix.det ≠ 0) :
    (matedTransform world base moved).IsAffine :=
  affineWorld.mul ((affineBase.mul isAffine_flip).mul (affineMoved.inverse invertible))

/-- What is mated to a translated base is translated with it. -/
theorem matedTransform_translated
    (distance : Vec3 K)
    (world : Transform K)
    (base moved : Connector K) :
    matedTransform (world.translated distance) base moved =
      (matedTransform world base moved).translated distance :=
  Transform.mul_assoc _ _ _

end Connector

end LevelScript
