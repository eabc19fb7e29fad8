import LevelScript.Geometry.Scalar

namespace LevelScript

/-!
# Vectors

Positions and offsets are vectors of three numbers. The columns of a transform have a
fourth component. Every operation acts on each component by itself.
-/

/-- A position or an offset. -/
structure Vec3 (α : Type) where
  x : α
  y : α
  z : α
deriving Repr, DecidableEq, BEq, Inhabited

/-- A column of a transform. -/
structure Vec4 (α : Type) where
  x : α
  y : α
  z : α
  w : α
deriving Repr, DecidableEq, BEq, Inhabited

namespace Vec3

instance [Add α] : Add (Vec3 α) where
  add first second := ⟨first.x + second.x, first.y + second.y, first.z + second.z⟩

/-- The components in order. -/
def toList
    (vector : Vec3 α) :
    List α :=
  [vector.x, vector.y, vector.z]

/-- The column with the given last component. -/
def extend
    (vector : Vec3 α)
    (w : α) :
    Vec4 α :=
  ⟨vector.x, vector.y, vector.z, w⟩

@[simp] theorem mk_add_mk
    [Add α]
    (x y z x' y' z' : α) :
    (⟨x, y, z⟩ + ⟨x', y', z'⟩ : Vec3 α) = ⟨x + x', y + y', z + z'⟩ :=
  rfl

end Vec3

namespace Vec4

instance [Add α] : Add (Vec4 α) where
  add first second :=
    ⟨first.x + second.x, first.y + second.y, first.z + second.z, first.w + second.w⟩

instance [Sub α] : Sub (Vec4 α) where
  sub first second :=
    ⟨first.x - second.x, first.y - second.y, first.z - second.z, first.w - second.w⟩

/-- Columns are multiplied component by component. -/
instance [Mul α] : Mul (Vec4 α) where
  mul first second :=
    ⟨first.x * second.x, first.y * second.y, first.z * second.z, first.w * second.w⟩

/-- Every component multiplied by one factor. -/
def scale
    [Mul α]
    (vector : Vec4 α)
    (factor : α) :
    Vec4 α :=
  ⟨vector.x * factor, vector.y * factor, vector.z * factor, vector.w * factor⟩

/-- The sum of all components, from the first to the last. -/
def sum
    [Add α]
    (vector : Vec4 α) :
    α :=
  vector.x + vector.y + vector.z + vector.w

/-- The components in order. -/
def toList
    (vector : Vec4 α) :
    List α :=
  [vector.x, vector.y, vector.z, vector.w]

/-- The components but the last. -/
def truncate
    (vector : Vec4 α) :
    Vec3 α :=
  ⟨vector.x, vector.y, vector.z⟩

@[simp] theorem mk_add_mk
    [Add α]
    (x y z w x' y' z' w' : α) :
    (⟨x, y, z, w⟩ + ⟨x', y', z', w'⟩ : Vec4 α) = ⟨x + x', y + y', z + z', w + w'⟩ :=
  rfl

@[simp] theorem mk_sub_mk
    [Sub α]
    (x y z w x' y' z' w' : α) :
    (⟨x, y, z, w⟩ - ⟨x', y', z', w'⟩ : Vec4 α) = ⟨x - x', y - y', z - z', w - w'⟩ :=
  rfl

@[simp] theorem mk_mul_mk
    [Mul α]
    (x y z w x' y' z' w' : α) :
    (⟨x, y, z, w⟩ * ⟨x', y', z', w'⟩ : Vec4 α) = ⟨x * x', y * y', z * z', w * w'⟩ :=
  rfl

@[simp] theorem scale_mk
    [Mul α]
    (x y z w factor : α) :
    (⟨x, y, z, w⟩ : Vec4 α).scale factor =
      ⟨x * factor, y * factor, z * factor, w * factor⟩ :=
  rfl

end Vec4

end LevelScript
