namespace LevelScript

/-!
# Scalars

All geometry is written once over a type of scalars: levels are computed with floating
point numbers, and the same formulas can be read over an exact field.
-/

/-- Numbers with the four operations and the two constants that geometry needs. -/
class Scalar (α : Type) extends Add α, Sub α, Mul α, Neg α, Div α where
  zero : α
  one : α

instance : Scalar Float where
  zero := 0
  one := 1

end LevelScript
