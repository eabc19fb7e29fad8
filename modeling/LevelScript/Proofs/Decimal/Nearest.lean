import LevelScript.Proofs.Decimal.Encoding
import LevelScript.Proofs.Decimal.Rounding

namespace LevelScript.Binary64

/-!
# The nearest magnitude

Magnitudes cut the amounts between them in the middle. An amount is rounded to the magnitude
that covers it, which is the one between whose middles it lies; a middle itself belongs to the
even one of its two neighbours. Hence no other magnitude is nearer, and an amount is too large
exactly from the middle in front of infinity on.
-/

/-! ## Units of magnitudes -/

/-- The number of units of `2 ^ (-1074)` that a magnitude stands for. -/
def units
    (magnitude : Nat) :
    Nat :=
  significand magnitude * 2 ^ scale magnitude

theorem exponentPlace_eq : exponentPlace = 4503599627370496 :=
  rfl

/-- The next magnitude is the next step at the same scale, also where the scale changes. -/
theorem units_succ
    (magnitude : Nat) :
    units (magnitude + 1) = units magnitude + 2 ^ scale magnitude := by
  unfold units
  by_cases sameScale : scale (magnitude + 1) = scale magnitude
  · have next : significand (magnitude + 1) = significand magnitude + 1 := by
      have parts := scale_mul_add_significand magnitude
      have nextParts := scale_mul_add_significand (magnitude + 1)
      rw [sameScale] at nextParts
      omega
    rw [sameScale, next, Nat.add_mul, Nat.one_mul]
  · have carried : scale (magnitude + 1) = scale magnitude + 1 := by
      unfold scale at sameScale ⊢
      rw [exponentPlace_eq] at sameScale ⊢
      omega
    have parts := scale_mul_add_significand magnitude
    have nextParts := scale_mul_add_significand (magnitude + 1)
    have full : significand (magnitude + 1) = exponentPlace := by
      unfold significand
      unfold scale at carried
      rw [exponentPlace_eq] at carried ⊢
      rw [if_neg (by omega)]
      omega
    rw [carried, full, Nat.add_mul, Nat.one_mul] at nextParts
    have whole : significand magnitude + 1 = 2 * exponentPlace := by
      omega
    rw [carried, full, Nat.pow_succ, Nat.mul_comm (2 ^ _), ← Nat.mul_assoc,
      Nat.mul_comm exponentPlace, ← whole, Nat.add_mul, Nat.one_mul]

theorem strictMono_units :
    StrictMono units :=
  strictMono_nat_of_lt_succ fun magnitude => by
    rw [units_succ]
    exact Nat.lt_add_of_pos_right (Nat.two_pow_pos _)

@[simp] theorem units_zero :
    units 0 = 0 := by
  simp [units, significand, exponentPlace_eq]

/-! ## Middles -/

/-- The amount in the middle between a magnitude and the next one. -/
def middle
    (magnitude : Nat) :
    ℚ :=
  (units magnitude + units (magnitude + 1)) / 2

theorem units_lt_middle
    (magnitude : Nat) :
    (units magnitude : ℚ) < middle magnitude := by
  have step : (units magnitude : ℚ) < units (magnitude + 1) :=
    Nat.cast_lt.2 (strictMono_units (Nat.lt_succ_self magnitude))
  unfold middle
  linarith

theorem middle_lt_units
    (magnitude : Nat) :
    middle magnitude < units (magnitude + 1) := by
  have step : (units magnitude : ℚ) < units (magnitude + 1) :=
    Nat.cast_lt.2 (strictMono_units (Nat.lt_succ_self magnitude))
  unfold middle
  linarith

theorem strictMono_middle :
    StrictMono middle :=
  strictMono_nat_of_lt_succ fun magnitude =>
    (middle_lt_units magnitude).trans (units_lt_middle (magnitude + 1))

/-- The upper reach of a magnitude ends in the middle before the next one. -/
theorem upper_reach_eq
    (magnitude : Nat) :
    (4 * significand magnitude + 2) * 2 ^ scale magnitude =
      2 * (units magnitude + units (magnitude + 1)) := by
  rw [units_succ]
  unfold units
  ring

/-- The lower reach of a magnitude ends in the middle after the one before. -/
theorem lower_reach_eq
    (below : Nat) :
    (4 * significand (below + 1) -
          if significand (below + 1) = exponentPlace ∧ 0 < scale (below + 1) then 1 else 2) *
        2 ^ scale (below + 1) =
      2 * (units below + units (below + 1)) := by
  have next := units_succ below
  have above : units (below + 1) = significand (below + 1) * 2 ^ scale (below + 1) := rfl
  split
  case isTrue carry =>
    obtain ⟨full, scaled⟩ := carry
    have carried : scale (below + 1) = scale below + 1 := by
      have parts := scale_mul_add_significand (below + 1)
      rw [full] at parts
      unfold scale at parts scaled ⊢
      rw [exponentPlace_eq] at parts scaled ⊢
      omega
    rw [full, carried, Nat.pow_succ] at above
    rw [full, carried, Nat.pow_succ, exponentPlace_eq]
    rw [exponentPlace_eq] at above
    omega
  case isFalse noCarry =>
    have sameScale : scale (below + 1) = scale below := by
      by_contra differ
      refine noCarry ⟨?_, ?_⟩
      · unfold significand
        unfold scale at differ
        rw [exponentPlace_eq] at differ ⊢
        rw [if_neg (by omega)]
        omega
      · unfold scale at differ ⊢
        rw [exponentPlace_eq] at differ ⊢
        omega
    rw [sameScale] at above ⊢
    have positive := significand_pos (Nat.succ_pos below)
    obtain ⟨less, isSucc⟩ := Nat.exists_eq_add_of_lt positive
    rw [isSucc] at above ⊢
    have reach : 4 * (0 + less + 1) - 2 = 4 * less + 2 := by omega
    rw [reach]
    rw [above] at next ⊢
    have before : units below = less * 2 ^ scale below := by
      linarith
    rw [before]
    ring

/-! ## Amounts around a magnitude -/

/-- An amount lies between the middles around a magnitude, and on one only if it is even. -/
structure Covers
    (magnitude : Nat)
    (amount : ℚ) :
    Prop where
  above : amount ≤ middle magnitude
  atAbove : amount = middle magnitude → magnitude % 2 = 0
  below : ∀ less, less + 1 = magnitude → middle less ≤ amount
  atBelow : ∀ less, less + 1 = magnitude → middle less = amount → magnitude % 2 = 0

theorem magnitude_le_units
    (magnitude : Nat) :
    magnitude ≤ units magnitude :=
  strictMono_units.le_apply

/-- Every amount is covered by a magnitude. -/
theorem exists_covers
    (amount : ℚ) :
    ∃ magnitude, Covers magnitude amount := by
  have bounded : ∃ magnitude, amount ≤ middle magnitude := by
    obtain ⟨magnitude, large⟩ := exists_nat_ge amount
    have grows : (magnitude : ℚ) ≤ units magnitude :=
      Nat.cast_le.2 (magnitude_le_units magnitude)
    exact ⟨magnitude, large.trans (grows.trans (units_lt_middle magnitude).le)⟩
  -- The least magnitude whose upper middle is not passed, or the next one at an odd tie.
  obtain ⟨magnitude, inside, least⟩ := Nat.findX bounded
  have notBelow : ∀ less, less + 1 = magnitude → middle less < amount :=
    fun less isLess => not_le.1 (least less (by omega))
  by_cases tie : amount = middle magnitude ∧ magnitude % 2 = 1
  · obtain ⟨atMiddle, odd⟩ := tie
    have beyond := strictMono_middle (Nat.lt_succ_self magnitude)
    refine ⟨magnitude + 1, ?_, ?_, ?_, ?_⟩
    · exact atMiddle.trans_le beyond.le
    · intro atNext
      exact absurd (atMiddle.symm.trans atNext) beyond.ne
    · intro less isLess
      obtain rfl : less = magnitude := by omega
      exact atMiddle.ge
    · intro _ _ _
      omega
  · refine ⟨magnitude, inside, ?_, ?_, ?_⟩
    · intro atMiddle
      have notOdd : magnitude % 2 ≠ 1 := fun odd => tie ⟨atMiddle, odd⟩
      omega
    · exact fun less isLess => (notBelow less isLess).le
    · exact fun less isLess atMiddle => absurd atMiddle (notBelow less isLess).ne

/-- Whatever lies between two amounts that a magnitude covers is covered too. -/
theorem Covers.between
    {magnitude : Nat}
    {low amount high : ℚ}
    (coversLow : Covers magnitude low)
    (coversHigh : Covers magnitude high)
    (atLeast : low ≤ amount)
    (atMost : amount ≤ high) :
    Covers magnitude amount where
  above := atMost.trans coversHigh.above
  atAbove atMiddle := coversHigh.atAbove (le_antisymm coversHigh.above (atMiddle ▸ atMost))
  below less isLess := (coversLow.below less isLess).trans atLeast
  atBelow less isLess atMiddle :=
    coversLow.atBelow less isLess (le_antisymm (coversLow.below less isLess) (atMiddle ▸ atLeast))

/-! ## Rounding -/

/-- A quotient in units of `2 ^ (-1074)`. -/
def amountOf
    (dividend divisor : Nat) :
    ℚ :=
  unitsOf dividend / divisor

theorem amountOf_eq
    (dividend divisor : Nat) :
    amountOf dividend divisor = dividend / divisor * 2 ^ 1074 := by
  simp only [div_mul_eq_mul_div, amountOf, unitsOf, Nat.pow_eq, Nat.cast_mul, Nat.cast_pow,
    Nat.cast_ofNat]

/-- Quotients are compared by multiplying crosswise. -/
theorem amountOf_le_amountOf_iff
    {dividend divisor otherDividend otherDivisor : Nat}
    (positive : 0 < divisor)
    (otherPositive : 0 < otherDivisor) :
    amountOf dividend divisor ≤ amountOf otherDividend otherDivisor ↔
      dividend * otherDivisor ≤ otherDividend * divisor := by
  have unitPositive : (0 : ℚ) < 2 ^ 1074 := pow_pos two_pos _
  rw [amountOf_eq, amountOf_eq, mul_le_mul_iff_left₀ unitPositive,
    div_le_div_iff₀ (Nat.cast_pos.2 positive) (Nat.cast_pos.2 otherPositive)]
  exact_mod_cast Iff.rfl

theorem amountOf_eq_amountOf
    {dividend divisor otherDividend otherDivisor : Nat}
    (positive : 0 < divisor)
    (otherPositive : 0 < otherDivisor)
    (same : dividend * otherDivisor = otherDividend * divisor) :
    amountOf dividend divisor = amountOf otherDividend otherDivisor :=
  le_antisymm
    ((amountOf_le_amountOf_iff positive otherPositive).2 same.le)
    ((amountOf_le_amountOf_iff otherPositive positive).2 same.ge)

theorem significand_mod_two
    (magnitude : Nat) :
    significand magnitude % 2 = magnitude % 2 := by
  have parts := scale_mul_add_significand magnitude
  rw [exponentPlace_eq] at parts
  omega

theorem middle_le_amountOf_iff
    {magnitude dividend divisor : Nat}
    (positive : 0 < divisor) :
    middle magnitude ≤ amountOf dividend divisor ↔
      2 * (units magnitude + units (magnitude + 1)) * divisor ≤ 4 * unitsOf dividend := by
  have divisorPositive : (0 : ℚ) < divisor := Nat.cast_pos.2 positive
  unfold middle amountOf
  rw [div_le_div_iff₀ (by norm_num) divisorPositive, ← Nat.cast_le (α := ℚ)]
  push_cast
  constructor <;> intro bound <;> linarith

theorem amountOf_le_middle_iff
    {magnitude dividend divisor : Nat}
    (positive : 0 < divisor) :
    amountOf dividend divisor ≤ middle magnitude ↔
      4 * unitsOf dividend ≤ 2 * (units magnitude + units (magnitude + 1)) * divisor := by
  have divisorPositive : (0 : ℚ) < divisor := Nat.cast_pos.2 positive
  unfold middle amountOf
  rw [div_le_div_iff₀ divisorPositive (by norm_num), ← Nat.cast_le (α := ℚ)]
  push_cast
  constructor <;> intro bound <;> linarith

/-- A magnitude that covers a quotient is the nearest one. -/
theorem nearest_eq_of_covers
    {magnitude dividend divisor : Nat}
    (positive : 0 < divisor)
    (covers : Covers magnitude (amountOf dividend divisor)) :
    nearest dividend divisor = magnitude := by
  have upperEnd :
      (4 * significand magnitude + 2) * (divisor * 2 ^ scale magnitude) =
        2 * (units magnitude + units (magnitude + 1)) * divisor := by
    rw [← upper_reach_eq]
    ring
  have lowerEnd : ∀ less, less + 1 = magnitude →
      (4 * significand magnitude -
            if significand magnitude = exponentPlace ∧ 0 < scale magnitude then 1 else 2) *
          (divisor * 2 ^ scale magnitude) =
        2 * (units less + units (less + 1)) * divisor := by
    rintro less rfl
    rw [← lower_reach_eq]
    ring
  have upper := (amountOf_le_middle_iff positive).1 covers.above
  rw [← upperEnd] at upper
  have atUpper :
      4 * unitsOf dividend =
          (4 * significand magnitude + 2) * (divisor * 2 ^ scale magnitude) →
        significand magnitude % 2 = 0 := by
    intro atEnd
    rw [significand_mod_two]
    apply covers.atAbove (le_antisymm covers.above _)
    rw [middle_le_amountOf_iff positive, ← upperEnd, atEnd]
  cases magnitude with
  | zero =>
      have none : significand 0 = 0 := rfl
      refine nearest_eq positive rfl ?_ upper ?_
      · simp [none]
      · intro _
        rw [none]
  | succ less =>
      refine nearest_eq positive rfl ?_ upper ?_
      · rw [lowerEnd less rfl]
        exact (middle_le_amountOf_iff positive).1 (covers.below less rfl)
      · rintro (atLower | atEnd)
        · rw [significand_mod_two]
          apply covers.atBelow less rfl (le_antisymm (covers.below less rfl) _)
          rw [amountOf_le_middle_iff positive, ← lowerEnd less rfl, atLower]
        · exact atUpper atEnd

/-- The magnitude that a quotient is rounded to is the one that covers it. -/
theorem nearest_eq_iff_covers
    {magnitude dividend divisor : Nat}
    (positive : 0 < divisor) :
    nearest dividend divisor = magnitude ↔ Covers magnitude (amountOf dividend divisor) := by
  constructor
  · rintro rfl
    obtain ⟨magnitude, covers⟩ := exists_covers (amountOf dividend divisor)
    rw [nearest_eq_of_covers positive covers]
    exact covers
  · exact nearest_eq_of_covers positive

/-- No other magnitude is nearer to a covered amount, and a tie goes to the even one. -/
theorem Covers.nearest
    {magnitude : Nat}
    {amount : ℚ}
    (covers : Covers magnitude amount)
    (other : Nat) :
    |amount - units magnitude| ≤ |amount - units other| ∧
      (|amount - units magnitude| = |amount - units other| →
        other = magnitude ∨ magnitude % 2 = 0) := by
  have isMiddle : ∀ magnitude, 2 * middle magnitude = units magnitude + units (magnitude + 1) := by
    intro magnitude
    unfold middle
    ring
  rcases lt_trichotomy other magnitude with less | rfl | more
  · -- A smaller magnitude is at most the one below, hence behind the lower middle.
    obtain ⟨below, rfl⟩ := Nat.exists_eq_succ_of_ne_zero (by omega : magnitude ≠ 0)
    have lower := covers.below below rfl
    have step : (units other : ℚ) ≤ units below :=
      Nat.cast_le.2 (strictMono_units.monotone (Nat.le_of_lt_succ less))
    have next : (units below : ℚ) < units (below + 1) :=
      Nat.cast_lt.2 (strictMono_units (Nat.lt_succ_self below))
    have twice := isMiddle below
    rw [abs_of_nonneg (by linarith : (0 : ℚ) ≤ amount - units other)]
    refine ⟨abs_le.2 ⟨by linarith, by linarith⟩, fun same => .inr ?_⟩
    apply covers.atBelow below rfl
    rcases abs_choice (amount - units (below + 1)) with sign | sign <;> rw [sign] at same <;>
      linarith
  · exact ⟨le_rfl, fun _ => .inl rfl⟩
  · have upper := covers.above
    have step : (units (magnitude + 1) : ℚ) ≤ units other :=
      Nat.cast_le.2 (strictMono_units.monotone more)
    have next : (units magnitude : ℚ) < units (magnitude + 1) :=
      Nat.cast_lt.2 (strictMono_units (Nat.lt_succ_self magnitude))
    have twice := isMiddle magnitude
    rw [abs_of_nonpos (by linarith : amount - units other ≤ 0)]
    refine ⟨abs_le.2 ⟨by linarith, by linarith⟩, fun same => .inr ?_⟩
    apply covers.atAbove
    rcases abs_choice (amount - units magnitude) with sign | sign <;> rw [sign] at same <;>
      linarith

end LevelScript.Binary64
