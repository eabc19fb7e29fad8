import LevelScript.Proofs.Geometry.Matrix

namespace LevelScript

/-!
# Mated connectors

Mating gives the moved entity the one transform with which its connector meets the base's:
the poses of both have the same origin and X axis, and they face each other.
-/

/-- A column is negated component by component. -/
instance [Neg α] : Neg (Vec4 α) where
  neg vector := ⟨-vector.x, -vector.y, -vector.z, -vector.w⟩

@[simp] theorem Vec4.neg_mk
    [Neg α]
    (x y z w : α) :
    -(⟨x, y, z, w⟩ : Vec4 α) = ⟨-x, -y, -z, -w⟩ :=
  rfl

/-- Two poses have the same origin and X axis and opposite Y and Z axes. -/
structure Transform.Meets
    [Neg α]
    (pose other : Transform α) :
    Prop where
  origin : pose.wAxis = other.wAxis
  xAxis : pose.xAxis = other.xAxis
  yAxis : pose.yAxis = -other.yAxis
  zAxis : pose.zAxis = -other.zAxis

namespace Connector

open scoped Exact

variable {K : Type} [Field K]

/-- A half turn about the X axis turns the other two axes round. -/
theorem mul_flip
    (transform : Transform K) :
    transform * flip =
      ⟨transform.xAxis, -transform.yAxis, -transform.zAxis, transform.wAxis⟩ := by
  obtain ⟨⟨_, _, _, _⟩, ⟨_, _, _, _⟩, ⟨_, _, _, _⟩, ⟨_, _, _, _⟩⟩ := transform
  simp [Transform.mul_def, Transform.apply, flip]

/-- Only the mated transform takes the moved connector to the base's, half a turn round. -/
theorem mul_offset_eq_iff
    {base moved : Connector K}
    (invertible : moved.offset.toMatrix.det ≠ 0)
    {transform world : Transform K} :
    transform * moved.offset = world * base.offset * flip ↔
      transform = matedTransform world base moved := by
  have isUnit : IsUnit moved.offset.toMatrix.det := isUnit_iff_ne_zero.2 invertible
  rw [← Transform.toMatrix_injective.eq_iff, ← Transform.toMatrix_injective.eq_iff]
  simp only [matedTransform, alignInto, Transform.toMatrix_mul,
    Transform.toMatrix_inverse invertible, ← Matrix.mul_assoc]
  constructor
  · intro meets
    rw [← meets, Matrix.mul_nonsing_inv_cancel_right _ _ isUnit]
  · intro same
    rw [same, Matrix.nonsing_inv_mul_cancel_right _ _ isUnit]

/-- The pose of the moved connector meets that of the base's. -/
theorem meets_of_matedTransform
    (world : Transform K)
    (base : Connector K)
    {moved : Connector K}
    (invertible : moved.offset.toMatrix.det ≠ 0) :
    (matedTransform world base moved * moved.offset).Meets (world * base.offset) := by
  rw [(mul_offset_eq_iff invertible).2 rfl, mul_flip]
  exact ⟨rfl, rfl, rfl, rfl⟩

/-- Two half turns undo each other. -/
theorem toMatrix_flip_mul_flip :
    (flip : Transform K).toMatrix * (flip : Transform K).toMatrix = 1 := by
  ext row column
  fin_cases row <;> fin_cases column <;>
    simp [Transform.toMatrix, flip, Matrix.mul_apply, Fin.sum_univ_four]

/-- Mating the base in turn to what was mated to it leaves the base where it was. -/
theorem matedTransform_matedTransform
    (world : Transform K)
    {base moved : Connector K}
    (baseInvertible : base.offset.toMatrix.det ≠ 0)
    (movedInvertible : moved.offset.toMatrix.det ≠ 0) :
    matedTransform (matedTransform world base moved) moved base = world := by
  have baseUnit : IsUnit base.offset.toMatrix.det := isUnit_iff_ne_zero.2 baseInvertible
  have movedUnit : IsUnit moved.offset.toMatrix.det := isUnit_iff_ne_zero.2 movedInvertible
  apply Transform.toMatrix_injective
  simp only [matedTransform, alignInto, Transform.toMatrix_mul,
    Transform.toMatrix_inverse baseInvertible, Transform.toMatrix_inverse movedInvertible,
    ← Matrix.mul_assoc]
  -- The moved offset and its inverse meet first, then the two half turns, then the base offset.
  rw [Matrix.nonsing_inv_mul_cancel_right _ _ movedUnit,
    Matrix.mul_assoc (world.toMatrix * base.offset.toMatrix), toMatrix_flip_mul_flip,
    Matrix.mul_one,
    Matrix.mul_nonsing_inv_cancel_right _ _ baseUnit]

end Connector

end LevelScript
