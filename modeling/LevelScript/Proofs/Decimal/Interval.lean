import LevelScript.Decimal.Shortest
import LevelScript.Proofs.Decimal.Nearest

namespace LevelScript.Decimal

open Binary64 (Covers amountOf middle units)

/-!
# Intervals of decimals

The interval of a magnitude consists of the decimals of the finest grid that the magnitude
covers: it starts and ends in the middles around the magnitude, and has its ends if the
magnitude is even. So whatever lies in the interval is rounded to the magnitude.
-/

namespace Interval

variable {interval : Interval}

/-- What an interval contains lies between its ends, and on an end only if it is closed. -/
theorem contains_iff
    (interval : Interval)
    (decimal : Nat) :
    interval.contains decimal = true ↔
      interval.low ≤ decimal ∧
        decimal ≤ interval.high ∧
        (interval.low = decimal ∨ decimal = interval.high → interval.closed = true) := by
  unfold Interval.contains
  split
  · rename_i closed
    simp [closed]
  · rename_i unclosed
    rw [Bool.not_eq_true] at unclosed
    simp only [unclosed, Bool.false_eq_true, imp_false, decide_eq_true_eq]
    omega

/-- Whatever lies between two decimals of an interval belongs to it. -/
theorem contains_between
    {low decimal high : Nat}
    (containsLow : interval.contains low = true)
    (containsHigh : interval.contains high = true)
    (atLeast : low ≤ decimal)
    (atMost : decimal ≤ high) :
    interval.contains decimal = true := by
  rw [contains_iff] at containsLow containsHigh ⊢
  obtain ⟨behindLow, _, closedAtLow⟩ := containsLow
  obtain ⟨_, beforeHigh, closedAtHigh⟩ := containsHigh
  refine ⟨behindLow.trans atLeast, atMost.trans beforeHigh, ?_⟩
  rintro (atLowEnd | atHighEnd)
  · exact closedAtLow (.inl (by omega))
  · exact closedAtHigh (.inr (by omega))

end Interval

/-! ## Middles as ends -/

/-- The interval of a magnitude ends in the middle before the next one. -/
theorem high_ofMagnitude
    (magnitude : Nat) :
    (Interval.ofMagnitude magnitude).high =
      2 * (units magnitude + units (magnitude + 1)) * 5 ^ finestPlace := by
  rw [← Binary64.upper_reach_eq, Nat.mul_assoc]
  simp only [Interval.ofMagnitude, Nat.pow_eq]

/-- The interval of a magnitude starts in the middle after the one before. -/
theorem low_ofMagnitude
    (below : Nat) :
    (Interval.ofMagnitude (below + 1)).low =
      2 * (units below + units (below + 1)) * 5 ^ finestPlace := by
  rw [← Binary64.lower_reach_eq, Nat.mul_assoc]
  simp only [Interval.ofMagnitude, Nat.pow_eq]

/-- A decimal of the finest grid is compared in whole steps of the grid. -/
theorem le_steps_iff
    (decimal whole : Nat) :
    (whole * 10 ^ finestPlace ≤ 4 * Binary64.unitsOf decimal ↔
        whole * 5 ^ finestPlace ≤ decimal) ∧
      (4 * Binary64.unitsOf decimal ≤ whole * 10 ^ finestPlace ↔
        decimal ≤ whole * 5 ^ finestPlace) := by
  have steps : ∀ place finer, finer = place + 2 →
      4 * (decimal * Nat.pow 2 place) = decimal * 2 ^ finer := by
    intro place finer finerIs
    rw [finerIs, Nat.pow_add, Nat.pow_eq]
    ring
  have positive : 0 < 2 ^ finestPlace :=
    Nat.two_pow_pos _
  rw [Binary64.unitsOf, steps 1074 finestPlace rfl, show (10 : Nat) = 5 * 2 by rfl, Nat.mul_pow,
    ← Nat.mul_assoc, Nat.mul_le_mul_right_iff positive, Nat.mul_le_mul_right_iff positive]
  exact ⟨Iff.rfl, Iff.rfl⟩

/-- The interval of a magnitude consists of the decimals that the magnitude covers. -/
theorem contains_iff_covers
    {magnitude : Nat}
    (positive : 0 < magnitude)
    (decimal : Nat) :
    (Interval.ofMagnitude magnitude).contains decimal = true ↔
      Covers magnitude (amountOf decimal (10 ^ finestPlace)) := by
  obtain ⟨below, rfl⟩ := Nat.exists_eq_succ_of_ne_zero positive.ne'
  have divisorPositive : 0 < 10 ^ finestPlace :=
    Nat.pow_pos (by decide)
  have isClosed : (Interval.ofMagnitude (below + 1)).closed = true ↔ (below + 1) % 2 = 0 := by
    rw [← Binary64.significand_mod_two]
    exact decide_eq_true_iff
  have behind : ∀ magnitude,
      middle magnitude ≤ amountOf decimal (10 ^ finestPlace) ↔
        2 * (units magnitude + units (magnitude + 1)) * 5 ^ finestPlace ≤ decimal :=
    fun _ => (Binary64.middle_le_amountOf_iff divisorPositive).trans (le_steps_iff _ _).1
  have before : ∀ magnitude,
      amountOf decimal (10 ^ finestPlace) ≤ middle magnitude ↔
        decimal ≤ 2 * (units magnitude + units (magnitude + 1)) * 5 ^ finestPlace :=
    fun _ => (Binary64.amountOf_le_middle_iff divisorPositive).trans (le_steps_iff _ _).2
  rw [Interval.contains_iff, low_ofMagnitude, high_ofMagnitude, isClosed]
  constructor
  · rintro ⟨atLeast, atMost, even⟩
    refine ⟨(before _).2 atMost, ?_, ?_, ?_⟩
    · intro atMiddle
      exact even (.inr (le_antisymm atMost ((behind _).1 atMiddle.ge)))
    · rintro less ⟨⟩
      exact (behind _).2 atLeast
    · rintro less ⟨⟩ atMiddle
      exact even (.inl (le_antisymm atLeast ((before _).1 atMiddle.ge)))
  · intro covers
    refine ⟨(behind _).1 (covers.below below rfl), (before _).1 covers.above, ?_⟩
    rintro (atLow | atHigh)
    · exact covers.atBelow below rfl
        (le_antisymm (covers.below below rfl) ((before _).2 atLow.ge))
    · exact covers.atAbove (le_antisymm covers.above ((behind _).2 atHigh.ge))

/--
A decimal in the interval of a magnitude is rounded to this magnitude.

The decimal is given twice: in steps of the finest grid, and as the quotient that is read.
-/
theorem nearest_of_contains
    {magnitude decimal digits divisor : Nat}
    (positive : 0 < magnitude)
    (divisorPositive : 0 < divisor)
    (inside : (Interval.ofMagnitude magnitude).contains decimal = true)
    (sameValue : digits * 10 ^ finestPlace = decimal * divisor) :
    Binary64.nearest digits divisor = magnitude := by
  rw [Binary64.nearest_eq_iff_covers divisorPositive,
    Binary64.amountOf_eq_amountOf divisorPositive (Nat.pow_pos (by decide)) sameValue]
  exact (contains_iff_covers positive decimal).1 inside

end LevelScript.Decimal
