import LevelScript.Geometry.Vec

namespace LevelScript

/-!
# Transforms

A transform is a matrix of four columns that maps an entity's own space to the level's.
The order in which products are added is fixed, because floating point sums depend on it.
-/

/-- A matrix by its columns. -/
structure Transform (α : Type) where
  xAxis : Vec4 α
  yAxis : Vec4 α
  zAxis : Vec4 α
  wAxis : Vec4 α
deriving Repr, DecidableEq, BEq, Inhabited

namespace Transform

variable {α : Type}

/-- The entries column by column. -/
def toList
    (transform : Transform α) :
    List α :=
  transform.xAxis.toList ++ transform.yAxis.toList ++
    transform.zAxis.toList ++ transform.wAxis.toList

/-- The position of the origin of the transformed space. -/
def position
    (transform : Transform α) :
    Vec3 α :=
  transform.wAxis.truncate

/-- The transform moved to another position, otherwise unchanged. -/
def withPosition
    (transform : Transform α)
    (position : Vec3 α) :
    Transform α :=
  { transform with wAxis := position.extend transform.wAxis.w }

variable [Scalar α]

open Scalar (zero one)

/-- The transform that only moves by a vector. -/
def ofPosition
    (position : Vec3 α) :
    Transform α where
  xAxis := ⟨one, zero, zero, zero⟩
  yAxis := ⟨zero, one, zero, zero⟩
  zAxis := ⟨zero, zero, one, zero⟩
  wAxis := position.extend one

/-- The transform that changes nothing. -/
def identity : Transform α :=
  ofPosition ⟨zero, zero, zero⟩

/-- The image of a column. -/
def apply
    (transform : Transform α)
    (vector : Vec4 α) :
    Vec4 α :=
  transform.xAxis.scale vector.x + transform.yAxis.scale vector.y +
    transform.zAxis.scale vector.z + transform.wAxis.scale vector.w

/-- The product maps as the second factor does and then as the first. -/
instance : Mul (Transform α) where
  mul first second :=
    {
      xAxis := first.apply second.xAxis
      yAxis := first.apply second.yAxis
      zAxis := first.apply second.zAxis
      wAxis := first.apply second.wAxis
    }

theorem mul_def
    (first second : Transform α) :
    first * second =
      {
        xAxis := first.apply second.xAxis
        yAxis := first.apply second.yAxis
        zAxis := first.apply second.zAxis
        wAxis := first.apply second.wAxis
      } :=
  rfl

/-- Every entry multiplied by one factor. -/
def scale
    (transform : Transform α)
    (factor : α) :
    Transform α where
  xAxis := transform.xAxis.scale factor
  yAxis := transform.yAxis.scale factor
  zAxis := transform.zAxis.scale factor
  wAxis := transform.wAxis.scale factor

/-- The first entries of all columns. -/
def rowX
    (transform : Transform α) :
    Vec4 α :=
  ⟨transform.xAxis.x, transform.yAxis.x, transform.zAxis.x, transform.wAxis.x⟩

/-- The second entries of all columns. -/
def rowY
    (transform : Transform α) :
    Vec4 α :=
  ⟨transform.xAxis.y, transform.yAxis.y, transform.zAxis.y, transform.wAxis.y⟩

/-- The third entries of all columns. -/
def rowZ
    (transform : Transform α) :
    Vec4 α :=
  ⟨transform.xAxis.z, transform.yAxis.z, transform.zAxis.z, transform.wAxis.z⟩

/-- The last entries of all columns. -/
def rowW
    (transform : Transform α) :
    Vec4 α :=
  ⟨transform.xAxis.w, transform.yAxis.w, transform.zAxis.w, transform.wAxis.w⟩

/-- The minors of two rows that an expansion along a third row multiplies its entries by. -/
def minors
    (upper lower : Vec4 α) :
    Vec4 α :=
  {
    x := upper.z * lower.w - upper.w * lower.z
    y := upper.z * lower.w - upper.w * lower.z
    z := upper.y * lower.w - upper.w * lower.y
    w := upper.y * lower.z - upper.z * lower.y
  }

/-- The entry of a row with which the expansion for each column of the result starts. -/
def leading
    (row : Vec4 α) :
    Vec4 α :=
  ⟨row.y, row.x, row.x, row.x⟩

/-- The transform of signed cofactors, which is the inverse up to the determinant. -/
def adjugate
    (transform : Transform α) :
    Transform α :=
  let x := transform.rowX
  let y := transform.rowY
  let z := transform.rowZ
  let w := transform.rowW
  let evenSigns : Vec4 α := ⟨one, -one, one, -one⟩
  let oddSigns : Vec4 α := ⟨-one, one, -one, one⟩
  {
    xAxis :=
      (leading y * minors z w - leading z * minors y w + leading w * minors y z) * evenSigns
    yAxis :=
      (leading x * minors z w - leading z * minors x w + leading w * minors x z) * oddSigns
    zAxis :=
      (leading x * minors y w - leading y * minors x w + leading w * minors x y) * evenSigns
    wAxis :=
      (leading x * minors y z - leading y * minors x z + leading z * minors x y) * oddSigns
  }

/-- The determinant, expanded along the first column. -/
def determinant
    (transform : Transform α) :
    α :=
  (transform.xAxis * transform.adjugate.rowX).sum

/-- The inverse by cofactors; a determinant of zero is not treated specially. -/
def inverse
    (transform : Transform α) :
    Transform α :=
  transform.adjugate.scale (one / transform.determinant)

end Transform

end LevelScript
