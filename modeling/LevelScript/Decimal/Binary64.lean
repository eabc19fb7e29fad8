namespace LevelScript.Binary64

/-!
# Binary floating point numbers, exactly

A finite `Float` is a sign and a magnitude: the low 63 bits of its encoding, read as a
natural number. Magnitudes are ordered like the values they encode, and each stands for
`significand * 2 ^ scale` units of `2 ^ (-1074)`, the least positive value. The next
magnitude is therefore the next value also where the exponent changes, which lets
`nearest` round a quotient without looking at exponents.
-/

/-- The weight of the least exponent bit in a magnitude. -/
def exponentPlace : Nat :=
  Nat.pow 2 52

/-- The weight of the sign bit in an encoding. -/
def signPlace : Nat :=
  Nat.pow 2 63

/-- The magnitude of infinity, the first one that encodes no finite value. -/
def infinite : Nat :=
  0x7ff * exponentPlace

/-- The encoding of a value without its sign. -/
def magnitude
    (value : Float) :
    Nat :=
  value.toBits.toNat % signPlace

/-- The sign bit of a value is set; this holds of negative zero too. -/
def isNegative
    (value : Float) :
    Bool :=
  signPlace ≤ value.toBits.toNat

/-- The value with the given sign and magnitude. -/
def ofMagnitude
    (negative : Bool)
    (magnitude : Nat) :
    Float :=
  Float.ofBits <|
    UInt64.ofNat (if negative then signPlace + magnitude else magnitude)

/-- The whole number that the exponent of a finite magnitude scales. -/
def significand
    (magnitude : Nat) :
    Nat :=
  if magnitude < exponentPlace then
    magnitude
  else
    exponentPlace + magnitude % exponentPlace

/-- The power of two by which the significand counts units of `2 ^ (-1074)`. -/
def scale
    (magnitude : Nat) :
    Nat :=
  magnitude / exponentPlace - 1

/-- Scale and significand determine the magnitude. -/
theorem scale_mul_add_significand
    (magnitude : Nat) :
    scale magnitude * exponentPlace + significand magnitude = magnitude := by
  have split := Nat.div_add_mod magnitude exponentPlace
  unfold scale significand
  by_cases small : magnitude < exponentPlace
  · simp [small, Nat.div_eq_of_lt small]
  · have positive : 1 ≤ magnitude / exponentPlace :=
      (Nat.one_le_div_iff (by decide)).2 (Nat.le_of_not_lt small)
    rw [if_neg small, Nat.sub_mul, Nat.mul_comm (magnitude / exponentPlace)]
    have bound : exponentPlace ≤ exponentPlace * (magnitude / exponentPlace) :=
      Nat.le_mul_of_pos_right _ positive
    omega

/-- The quotient rounded to the nearest whole number, a tie to the even one. -/
def roundQuotient
    (dividend divisor : Nat) :
    Nat :=
  let quotient := dividend / divisor
  let remainder := dividend % divisor
  if 2 * remainder < divisor then
    quotient
  else if divisor < 2 * remainder then
    quotient + 1
  else
    quotient + quotient % 2

/-- The number of units of `2 ^ (-1074)` in a whole number. -/
def unitsOf
    (whole : Nat) :
    Nat :=
  whole * Nat.pow 2 1074

/--
The magnitude nearest to a quotient, a tie going to the even significand.

A result from `infinite` on says that the quotient is too large for a finite value.
-/
def nearest
    (dividend divisor : Nat) :
    Nat :=
  let units := unitsOf dividend
  let scale := (units / divisor).log2 - 52
  scale * exponentPlace + roundQuotient units (divisor * Nat.pow 2 scale)

end LevelScript.Binary64
