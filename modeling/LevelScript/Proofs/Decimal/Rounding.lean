import LevelScript.Decimal.Binary64
import Mathlib.Algebra.Group.Nat.Defs

namespace LevelScript.Binary64

/-!
# Rounding to the nearest magnitude

A quotient within the reach of a magnitude is rounded to this magnitude. It reaches half of the
way to both neighbours, so the quotient that is rounded at its scale is within one half of the
significand. Only below a power of two the quotient is taken at the next finer scale, where
the same magnitude has twice the significand.
-/

/-- A quotient within one half of a whole number, and of an even one at a tie, rounds to it. -/
theorem roundQuotient_eq
    {dividend divisor whole : Nat}
    (positive : 0 < divisor)
    (lower : 2 * (whole * divisor) ≤ 2 * dividend + divisor)
    (upper : 2 * dividend ≤ 2 * (whole * divisor) + divisor)
    (tie :
      2 * (whole * divisor) = 2 * dividend + divisor ∨
          2 * dividend = 2 * (whole * divisor) + divisor →
        whole % 2 = 0) :
    roundQuotient dividend divisor = whole := by
  have parts := Nat.div_add_mod dividend divisor
  have small := Nat.mod_lt dividend positive
  have notAbove : dividend / divisor < whole + 1 := by
    rw [Nat.div_lt_iff_lt_mul positive, Nat.add_mul]
    omega
  have notBelow : whole ≤ dividend / divisor + 1 := by
    apply Nat.le_of_not_lt
    intro far
    have product :
        (dividend / divisor + 2) * divisor ≤ whole * divisor :=
      Nat.mul_le_mul_right divisor (by omega)
    rw [Nat.add_mul, Nat.mul_comm (dividend / divisor)] at product
    omega
  have cases :
      whole = dividend / divisor ∨ whole = dividend / divisor + 1 := by
    omega
  unfold roundQuotient
  generalize dividend / divisor = quotient at *
  generalize dividend % divisor = remainder at *
  rcases cases with same | next
  · subst whole
    rw [Nat.mul_comm quotient] at lower upper tie
    dsimp only
    split
    · rfl
    · rw [if_neg (by omega)]
      have even := tie (Or.inr (by omega))
      omega
  · subst whole
    rw [Nat.add_mul, Nat.mul_comm quotient] at lower upper tie
    dsimp only
    rw [if_neg (by omega)]
    split
    · rfl
    · have even := tie (Or.inl (by omega))
      omega

theorem nearest_zero
    (divisor : Nat) :
    nearest 0 divisor = 0 := by
  have noUnits : unitsOf 0 = 0 := by
    decide +kernel
  simp [nearest, noUnits, roundQuotient]

/-- A significand has at most 53 bits. -/
theorem significand_lt
    (magnitude : Nat) :
    significand magnitude < 2 * exponentPlace := by
  have bound : magnitude % exponentPlace < exponentPlace :=
    Nat.mod_lt _ (by decide)
  unfold significand
  split <;> omega

theorem significand_pos
    {magnitude : Nat}
    (positive : 0 < magnitude) :
    0 < significand magnitude := by
  have place : 0 < exponentPlace := by
    decide
  unfold significand
  split <;> omega

/-- The significand of a scaled magnitude has its leading bit set. -/
theorem exponentPlace_le_significand
    {magnitude : Nat}
    (scaled : 0 < scale magnitude) :
    exponentPlace ≤ significand magnitude := by
  have large : ¬magnitude < exponentPlace := by
    intro small
    rw [scale, Nat.div_eq_of_lt small] at scaled
    omega
  rw [significand, if_neg large]
  omega

/-- The scale that is taken for a quotient is determined by its leading bit. -/
theorem log2_sub_eq
    {quotient scale : Nat}
    (lower : 0 < scale → exponentPlace * 2 ^ scale ≤ quotient)
    (upper : quotient < 2 * exponentPlace * 2 ^ scale) :
    quotient.log2 - 52 = scale := by
  have place : exponentPlace = 2 ^ 52 := rfl
  rw [place, ← Nat.pow_add] at lower
  rw [place, ← Nat.pow_succ', ← Nat.pow_add] at upper
  rcases Nat.eq_zero_or_pos scale with unscaled | scaled
  · subst scale
    rcases Nat.eq_zero_or_pos quotient with none | some
    · subst quotient
      rfl
    · have bound := (Nat.log2_lt (by omega)).2 upper
      omega
  · have reached := lower scaled
    have positive : 0 < 2 ^ (52 + scale) := Nat.two_pow_pos _
    have exactly : quotient.log2 = 52 + scale :=
      (Nat.log2_eq_iff (by omega)).2 ⟨reached, by
        rwa [Nat.add_right_comm]⟩
    omega

/-- At the scale of its leading bit a quotient is rounded to a whole significand. -/
theorem nearest_eq_of_scale
    {dividend divisor scale whole : Nat}
    (positive : 0 < divisor)
    (least : 0 < scale → exponentPlace * (divisor * 2 ^ scale) ≤ unitsOf dividend)
    (bound : unitsOf dividend < 2 * exponentPlace * (divisor * 2 ^ scale))
    (rounded : roundQuotient (unitsOf dividend) (divisor * 2 ^ scale) = whole) :
    nearest dividend divisor = scale * exponentPlace + whole := by
  have sameScale : (unitsOf dividend / divisor).log2 - 52 = scale := by
    apply log2_sub_eq
    · intro scaled
      rw [Nat.le_div_iff_mul_le positive, Nat.mul_assoc, Nat.mul_comm _ divisor]
      exact least scaled
    · rw [Nat.div_lt_iff_lt_mul positive, Nat.mul_assoc, Nat.mul_comm _ divisor]
      exact bound
  unfold nearest
  dsimp only
  rw [sameScale]
  exact congrArg (scale * exponentPlace + ·) rounded

/--
A quotient within the reach of a magnitude is rounded to this magnitude.

Units of the quotient are compared in quarters of the magnitude's step. The lower reach is
only one quarter where the next smaller magnitude has a finer step.
-/
theorem nearest_eq
    {magnitude dividend divisor reach : Nat}
    (positive : 0 < divisor)
    (reachIs :
      reach =
        if significand magnitude = exponentPlace ∧ 0 < scale magnitude then 1 else 2)
    (lower :
      (4 * significand magnitude - reach) * (divisor * 2 ^ scale magnitude) ≤
        4 * unitsOf dividend)
    (upper :
      4 * unitsOf dividend ≤
        (4 * significand magnitude + 2) * (divisor * 2 ^ scale magnitude))
    (tie :
      (4 * significand magnitude - reach) * (divisor * 2 ^ scale magnitude) =
            4 * unitsOf dividend ∨
          4 * unitsOf dividend =
            (4 * significand magnitude + 2) * (divisor * 2 ^ scale magnitude) →
        significand magnitude % 2 = 0) :
    nearest dividend divisor = magnitude := by
  have parts := scale_mul_add_significand magnitude
  have bound := significand_lt magnitude
  have least := @exponentPlace_le_significand magnitude
  have place : 0 < exponentPlace := by
    decide
  have stepPositive : 0 < divisor * 2 ^ scale magnitude :=
    Nat.mul_pos positive (Nat.two_pow_pos _)
  rw [Nat.sub_mul, Nat.mul_assoc] at lower tie
  rw [Nat.add_mul, Nat.mul_assoc] at upper tie
  by_cases crossing :
      0 < scale magnitude ∧
        unitsOf dividend < exponentPlace * (divisor * 2 ^ scale magnitude)
  · -- Just below a power of two the quotient has the next finer scale.
    obtain ⟨scaled, below⟩ := crossing
    have reached := least scaled
    have power : significand magnitude = exponentPlace := by
      apply Nat.le_antisymm _ reached
      apply Nat.le_of_not_lt
      intro larger
      have product :=
        Nat.mul_le_mul_right (divisor * 2 ^ scale magnitude) larger
      rw [Nat.succ_mul] at product
      rw [if_neg (by omega)] at reachIs
      subst reach
      omega
    rw [if_pos ⟨power, scaled⟩] at reachIs
    subst reach
    obtain ⟨finer, finerIs⟩ := Nat.exists_eq_add_of_lt scaled
    rw [Nat.zero_add] at finerIs
    have twice : divisor * 2 ^ scale magnitude = 2 * (divisor * 2 ^ finer) := by
      rw [finerIs, Nat.pow_succ', Nat.mul_left_comm]
    rw [power, twice, Nat.mul_left_comm exponentPlace] at lower
    rw [twice, Nat.mul_left_comm exponentPlace] at below
    have product : 1 * (divisor * 2 ^ finer) ≤ exponentPlace * (divisor * 2 ^ finer) :=
      Nat.mul_le_mul_right _ place
    rw [← parts, power, finerIs, Nat.succ_mul, Nat.add_assoc, ← Nat.two_mul]
    apply nearest_eq_of_scale positive
    · intro _
      omega
    · rw [Nat.mul_assoc]
      exact below
    · apply roundQuotient_eq
        (Nat.mul_pos positive (Nat.two_pow_pos _))
      · rw [Nat.mul_assoc]
        omega
      · rw [Nat.mul_assoc]
        omega
      · intro _
        exact Nat.mul_mod_right 2 exponentPlace
  · have product :
        (significand magnitude + 1) * (divisor * 2 ^ scale magnitude) ≤
          2 * exponentPlace * (divisor * 2 ^ scale magnitude) :=
      Nat.mul_le_mul_right _ bound
    rw [Nat.succ_mul] at product
    have reachBound : reach = 1 ∨ reach = 2 := by
      rw [reachIs]
      split <;> simp
    rw [← parts]
    apply nearest_eq_of_scale positive
    · intro scaled
      exact Nat.le_of_not_lt fun below => crossing ⟨scaled, below⟩
    · omega
    · apply roundQuotient_eq stepPositive
      · rcases reachBound with rfl | rfl <;> omega
      · omega
      · intro atTie
        apply tie
        rcases reachBound with rfl | rfl <;> omega

end LevelScript.Binary64
