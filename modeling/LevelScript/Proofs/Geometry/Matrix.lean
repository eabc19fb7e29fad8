import Mathlib.LinearAlgebra.Matrix.NonsingularInverse
import Mathlib.Tactic.FinCases
import Mathlib.Tactic.Ring
import LevelScript.Geometry.Connector

namespace LevelScript

/-!
# Transforms as matrices

Read over an exact field, the formulas for transforms are those of linear algebra: the
product is the product of matrices, and the transform of cofactors, divided by the
determinant, is the inverse of every matrix that has one.
-/

namespace Exact

/-- The scalars of an exact field. -/
scoped instance scalar (K : Type) [Field K] : Scalar K where
  zero := 0
  one := 1

end Exact

open scoped Exact

variable {K : Type} [Field K]

@[simp] theorem Scalar.zero_eq_zero :
    (Scalar.zero : K) = 0 :=
  rfl

@[simp] theorem Scalar.one_eq_one :
    (Scalar.one : K) = 1 :=
  rfl

namespace Transform

/-- The matrix whose columns are those of the transform. -/
def toMatrix
    (transform : Transform K) :
    Matrix (Fin 4) (Fin 4) K :=
  !![transform.xAxis.x, transform.yAxis.x, transform.zAxis.x, transform.wAxis.x;
    transform.xAxis.y, transform.yAxis.y, transform.zAxis.y, transform.wAxis.y;
    transform.xAxis.z, transform.yAxis.z, transform.zAxis.z, transform.wAxis.z;
    transform.xAxis.w, transform.yAxis.w, transform.zAxis.w, transform.wAxis.w]

omit [Field K] in
/-- A transform is determined by its matrix. -/
theorem toMatrix_injective :
    Function.Injective (toMatrix : Transform K → Matrix (Fin 4) (Fin 4) K) := by
  rintro ⟨⟨_, _, _, _⟩, ⟨_, _, _, _⟩, ⟨_, _, _, _⟩, ⟨_, _, _, _⟩⟩
    ⟨⟨_, _, _, _⟩, ⟨_, _, _, _⟩, ⟨_, _, _, _⟩, ⟨_, _, _, _⟩⟩ same
  simp only [toMatrix, EmbeddingLike.apply_eq_iff_eq, Matrix.vecCons_inj] at same
  simp [same]

theorem toMatrix_mul
    (first second : Transform K) :
    (first * second).toMatrix = first.toMatrix * second.toMatrix := by
  obtain ⟨⟨_, _, _, _⟩, ⟨_, _, _, _⟩, ⟨_, _, _, _⟩, ⟨_, _, _, _⟩⟩ := first
  ext row column
  fin_cases row <;> fin_cases column <;>
    simp [toMatrix, mul_def, apply, Matrix.mul_apply, Fin.sum_univ_four]

/-- The expansion along the first column is the determinant. -/
theorem determinant_eq_det
    (transform : Transform K) :
    transform.determinant = transform.toMatrix.det := by
  obtain ⟨⟨_, _, _, _⟩, ⟨_, _, _, _⟩, ⟨_, _, _, _⟩, ⟨_, _, _, _⟩⟩ := transform
  simp [determinant, adjugate, rowX, rowY, rowZ, rowW, leading, minors, Vec4.sum, toMatrix,
    Matrix.det_succ_row_zero, Fin.sum_univ_succ, Fin.succAbove]
  ring

theorem toMatrix_scale
    (transform : Transform K)
    (factor : K) :
    (transform.scale factor).toMatrix = factor • transform.toMatrix := by
  ext row column
  fin_cases row <;> fin_cases column <;>
    simp [toMatrix, scale, Vec4.scale, mul_comm]

/-- Expanding along a column with the cofactors of another one gives zero. -/
theorem toMatrix_adjugate_mul
    (transform : Transform K) :
    transform.adjugate.toMatrix * transform.toMatrix = transform.determinant • 1 := by
  obtain ⟨⟨_, _, _, _⟩, ⟨_, _, _, _⟩, ⟨_, _, _, _⟩, ⟨_, _, _, _⟩⟩ := transform
  ext row column
  fin_cases row <;> fin_cases column <;>
    simp [toMatrix, determinant, adjugate, rowX, rowY, rowZ, rowW, leading, minors, Vec4.sum,
      Matrix.mul_apply, Fin.sum_univ_four] <;>
    ring

/-- The inverse by cofactors is the inverse of every matrix that has one. -/
theorem toMatrix_inverse
    {transform : Transform K}
    (invertible : transform.toMatrix.det ≠ 0) :
    transform.inverse.toMatrix = transform.toMatrix⁻¹ := by
  have divides : 1 / transform.determinant * transform.determinant = 1 := by
    rw [determinant_eq_det]
    exact one_div_mul_cancel invertible
  symm
  apply Matrix.inv_eq_left_inv
  rw [inverse, toMatrix_scale, Matrix.smul_mul, toMatrix_adjugate_mul, smul_smul,
    Scalar.one_eq_one, divides, one_smul]

end Transform

end LevelScript
