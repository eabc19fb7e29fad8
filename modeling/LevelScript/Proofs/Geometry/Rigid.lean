import LevelScript.Proofs.Geometry.Matrix

namespace LevelScript

/-!
# Rigid transforms

A rigid transform is a rotation followed by a translation: it keeps lengths, angles and
handedness. Rigid transforms are closed under everything that statements do to transforms.
-/

open scoped Exact

variable {K : Type} [Field K]

namespace Transform

/-- The linear part of a transform. -/
def linear
    (transform : Transform K) :
    Matrix (Fin 3) (Fin 3) K :=
  !![transform.xAxis.x, transform.yAxis.x, transform.zAxis.x;
    transform.xAxis.y, transform.yAxis.y, transform.zAxis.y;
    transform.xAxis.z, transform.yAxis.z, transform.zAxis.z]

/-- The bottom row is that of a linear map followed by a translation. -/
def IsAffine
    (transform : Transform K) :
    Prop :=
  transform.rowW = ⟨0, 0, 0, 1⟩

/-- A rotation followed by a translation. -/
structure IsRigid
    (transform : Transform K) :
    Prop where
  affine : transform.IsAffine
  /-- The axes have length one and are orthogonal to each other. -/
  orthonormal : transform.linear.transpose * transform.linear = 1
  /-- There is no mirror image. -/
  proper : transform.linear.det = 1

/-! ## Affine transforms -/

section Affine

variable {transform first second : Transform K}

theorem isAffine_ofPosition
    (position : Vec3 K) :
    (ofPosition position).IsAffine :=
  rfl

theorem IsAffine.rowW_mul
    (isAffine : first.IsAffine)
    (second : Transform K) :
    (first * second).rowW = second.rowW := by
  obtain ⟨⟨_, _, _, _⟩, ⟨_, _, _, _⟩, ⟨_, _, _, _⟩, ⟨_, _, _, _⟩⟩ := first
  simp only [IsAffine, rowW, Vec4.mk.injEq] at isAffine
  obtain ⟨rfl, rfl, rfl, rfl⟩ := isAffine
  simp [rowW, mul_def, apply, Vec4.scale]

theorem linear_mul
    (first : Transform K)
    (isAffine : second.IsAffine) :
    (first * second).linear = first.linear * second.linear := by
  obtain ⟨⟨_, _, _, _⟩, ⟨_, _, _, _⟩, ⟨_, _, _, _⟩, ⟨_, _, _, _⟩⟩ := first
  obtain ⟨⟨_, _, _, _⟩, ⟨_, _, _, _⟩, ⟨_, _, _, _⟩, ⟨_, _, _, _⟩⟩ := second
  simp only [IsAffine, rowW, Vec4.mk.injEq] at isAffine
  obtain ⟨rfl, rfl, rfl, rfl⟩ := isAffine
  ext row column
  fin_cases row <;> fin_cases column <;>
    simp [linear, mul_def, apply, Matrix.mul_apply, Fin.sum_univ_three]

/-- A translation adds nothing to the determinant. -/
theorem IsAffine.det_toMatrix
    (isAffine : transform.IsAffine) :
    transform.toMatrix.det = transform.linear.det := by
  obtain ⟨⟨_, _, _, _⟩, ⟨_, _, _, _⟩, ⟨_, _, _, _⟩, ⟨_, _, _, _⟩⟩ := transform
  simp only [IsAffine, rowW, Vec4.mk.injEq] at isAffine
  obtain ⟨rfl, rfl, rfl, rfl⟩ := isAffine
  simp [toMatrix, linear, Matrix.det_succ_row_zero, Fin.sum_univ_succ, Fin.succAbove]

end Affine

theorem toMatrix_identity :
    (identity : Transform K).toMatrix = 1 := by
  ext row column
  fin_cases row <;> fin_cases column <;>
    simp [toMatrix, identity, ofPosition, Vec3.extend]

theorem linear_identity :
    (identity : Transform K).linear = 1 := by
  ext row column
  fin_cases row <;> fin_cases column <;>
    simp [linear, identity, ofPosition]

theorem mul_inverse
    {transform : Transform K}
    (invertible : transform.toMatrix.det ≠ 0) :
    transform * transform.inverse = identity := by
  apply toMatrix_injective
  rw [toMatrix_mul, toMatrix_inverse invertible, toMatrix_identity]
  exact Matrix.mul_nonsing_inv _ (isUnit_iff_ne_zero.2 invertible)

theorem inverse_mul
    {transform : Transform K}
    (invertible : transform.toMatrix.det ≠ 0) :
    transform.inverse * transform = identity := by
  apply toMatrix_injective
  rw [toMatrix_mul, toMatrix_inverse invertible, toMatrix_identity]
  exact Matrix.nonsing_inv_mul _ (isUnit_iff_ne_zero.2 invertible)

theorem IsAffine.mul
    {first second : Transform K}
    (isAffine : first.IsAffine)
    (other : second.IsAffine) :
    (first * second).IsAffine := by
  rw [IsAffine, isAffine.rowW_mul]
  exact other

/-- What undoes an affine transform is affine. -/
theorem IsAffine.inverse
    {transform : Transform K}
    (isAffine : transform.IsAffine)
    (invertible : transform.toMatrix.det ≠ 0) :
    transform.inverse.IsAffine := by
  rw [IsAffine, ← isAffine.rowW_mul, mul_inverse invertible]
  rfl

/-! ## Rigid transforms -/

namespace IsRigid

variable {transform first second : Transform K}

theorem det_ne_zero
    (rigid : transform.IsRigid) :
    transform.toMatrix.det ≠ 0 := by
  rw [rigid.affine.det_toMatrix, rigid.proper]
  exact one_ne_zero

/-- The inverse by cofactors never divides by zero. -/
theorem determinant_ne_zero
    (rigid : transform.IsRigid) :
    transform.determinant ≠ 0 := by
  rw [determinant_eq_det]
  exact rigid.det_ne_zero

theorem mul_transpose
    (rigid : transform.IsRigid) :
    transform.linear * transform.linear.transpose = 1 :=
  mul_eq_one_comm.1 rigid.orthonormal

theorem ofPosition
    (position : Vec3 K) :
    (Transform.ofPosition position).IsRigid := by
  have linear : (Transform.ofPosition position).linear = 1 := linear_identity
  refine ⟨isAffine_ofPosition position, ?_, ?_⟩
  · rw [linear, Matrix.transpose_one, one_mul]
  · rw [linear, Matrix.det_one]

/-- Replacing the position keeps a transform rigid, for it keeps the bottom row. -/
theorem withPosition
    (rigid : transform.IsRigid)
    (position : Vec3 K) :
    (transform.withPosition position).IsRigid where
  affine := rigid.affine
  orthonormal := rigid.orthonormal
  proper := rigid.proper

theorem mul
    (rigid : first.IsRigid)
    (other : second.IsRigid) :
    (first * second).IsRigid where
  affine := rigid.affine.mul other.affine
  orthonormal := by
    rw [linear_mul first other.affine, Matrix.transpose_mul, Matrix.mul_assoc,
      ← Matrix.mul_assoc first.linear.transpose, rigid.orthonormal, one_mul,
      other.orthonormal]
  proper := by
    rw [linear_mul first other.affine, Matrix.det_mul, rigid.proper, other.proper, one_mul]

/-- The inverse turns back: its linear part is the transposed one. -/
theorem linear_inverse
    (rigid : transform.IsRigid) :
    transform.inverse.linear = transform.linear.transpose := by
  have cancels : transform.inverse.linear * transform.linear = 1 := by
    rw [← linear_mul _ rigid.affine, inverse_mul rigid.det_ne_zero, linear_identity]
  exact left_inv_eq_right_inv cancels rigid.mul_transpose

theorem inverse
    (rigid : transform.IsRigid) :
    transform.inverse.IsRigid where
  affine := rigid.affine.inverse rigid.det_ne_zero
  orthonormal := by
    rw [rigid.linear_inverse, Matrix.transpose_transpose]
    exact rigid.mul_transpose
  proper := by
    rw [rigid.linear_inverse, Matrix.det_transpose, rigid.proper]

end IsRigid

end Transform

namespace Connector

/-- The half turn is a rotation and no reflection. -/
theorem isRigid_flip :
    (flip : Transform K).IsRigid where
  affine := rfl
  orthonormal := by
    ext row column
    fin_cases row <;> fin_cases column <;>
      simp [Transform.linear, flip, Matrix.mul_apply, Fin.sum_univ_three]
  proper := by
    simp [Transform.linear, flip, Matrix.det_fin_three]

/-- Mating moves an entity without scaling, shearing or mirroring it. -/
theorem isRigid_matedTransform
    {world : Transform K}
    {base moved : Connector K}
    (rigidWorld : world.IsRigid)
    (rigidBase : base.offset.IsRigid)
    (rigidMoved : moved.offset.IsRigid) :
    (matedTransform world base moved).IsRigid :=
  rigidWorld.mul ((rigidBase.mul isRigid_flip).mul rigidMoved.inverse)

end Connector

end LevelScript
