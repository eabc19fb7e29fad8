import LevelScript.Proofs.Decimal.ReadBack

namespace LevelScript.Decimal

open Binary64 (amountOf units)

/-!
# No digits are shorter

The search for digits goes from coarse grids to finer ones and ends at the first grid with a
decimal that reads back. The grids are nested, so no decimal of the next coarser grid reads
back. Other digits of the same number hence have no fewer places, wherever their point stands.
-/

/-! ## The search -/

namespace Interval

variable {interval : Interval}

/-- Where no decimal of a grid is found, none reads back. -/
theorem not_contains_of_onGrid?
    (valueInside : interval.contains interval.value = true)
    {place : Nat}
    (notFound : interval.onGrid? place = none)
    (count : Nat) :
    interval.contains (count * 10 ^ place) = false := by
  have positive : 0 < 10 ^ place := Nat.pow_pos (by decide)
  unfold onGrid? at notFound
  dsimp only at notFound
  rw [Nat.pow_eq] at notFound
  split at notFound <;> try cases notFound
  rename_i noneBelow noneAbove
  rw [Bool.eq_false_iff]
  intro inside
  rcases Nat.lt_or_ge interval.value (count * 10 ^ place) with above | notAbove
  · have next : interval.value < (interval.value / 10 ^ place + 1) * 10 ^ place :=
      (Nat.div_lt_iff_lt_mul positive).1 (Nat.lt_succ_self _)
    have fromNext : (interval.value / 10 ^ place + 1) * 10 ^ place ≤ count * 10 ^ place :=
      Nat.mul_le_mul_right _ ((Nat.div_lt_iff_lt_mul positive).2 above)
    rw [contains_between valueInside inside next.le fromNext] at noneAbove
    cases noneAbove
  · have last : interval.value / 10 ^ place * 10 ^ place ≤ interval.value :=
      Nat.div_mul_le_self _ _
    have upToLast : count * 10 ^ place ≤ interval.value / 10 ^ place * 10 ^ place :=
      Nat.mul_le_mul_right _ ((Nat.le_div_iff_mul_le positive).2 notAbove)
    rw [contains_between inside valueInside upToLast last] at noneBelow
    cases noneBelow

theorem place_of_onGrid?
    {place : Nat}
    {found : Digits}
    (onGrid : interval.onGrid? place = some found) :
    found.place = place := by
  unfold onGrid? at onGrid
  dsimp only at onGrid
  split at onGrid <;> cases onGrid <;> rfl

/-- The search ends on a grid that is coarsest, or in front of a grid without a decimal. -/
theorem place_shortestFrom
    (interval : Interval)
    (coarsest : Nat) :
    (interval.shortestFrom coarsest).place = coarsest ∨
      (interval.shortestFrom coarsest).place < coarsest ∧
        interval.onGrid? ((interval.shortestFrom coarsest).place + 1) = none := by
  induction coarsest with
  | zero =>
      exact .inl rfl
  | succ place inductionHypothesis =>
      unfold shortestFrom
      cases onGrid : interval.onGrid? (place + 1) with
      | some found =>
          exact .inl (place_of_onGrid? onGrid)
      | none =>
          right
          rw [Option.getD_none]
          rcases inductionHypothesis with isPlace | ⟨finer, notFound⟩
          · rw [isPlace]
            exact ⟨Nat.lt_succ_self _, onGrid⟩
          · exact ⟨finer.trans (Nat.lt_succ_self _), notFound⟩

/-- A bound on one power is one on other powers whose exponents are in the same ratio. -/
theorem pow_le_pow_of_ratio
    {base other scaleBase scaleOther exponent otherExponent : Nat}
    (positive : 0 < other)
    (scaled : scaleBase ≠ 0)
    (bound : base ^ scaleBase ≤ other ^ scaleOther)
    (ratio : scaleOther * exponent ≤ otherExponent * scaleBase) :
    base ^ exponent ≤ other ^ otherExponent := by
  rw [← Nat.pow_le_pow_iff_left scaled]
  calc (base ^ exponent) ^ scaleBase
    _ = (base ^ scaleBase) ^ exponent := Nat.pow_right_comm _ _ _
    _ ≤ (other ^ scaleOther) ^ exponent := Nat.pow_le_pow_left bound _
    _ = other ^ (scaleOther * exponent) := (Nat.pow_mul _ _ _).symm
    _ ≤ other ^ (otherExponent * scaleBase) := Nat.pow_le_pow_right positive ratio
    _ = (other ^ otherExponent) ^ scaleBase := Nat.pow_mul _ _ _

/-- The logarithm of two is less than `0.30103`. -/
theorem two_pow_le_ten_pow
    (exponent : Nat) :
    2 ^ exponent ≤ 10 ^ (exponent * 30103 / 100000 + 1) := by
  have bound : 2 ^ 100000 ≤ 10 ^ 30103 := by
    decide +kernel
  exact pow_le_pow_of_ratio (by decide) (by decide) bound (by omega)

/-- The step of a grid from the coarsest place on is larger than the whole interval. -/
theorem high_lt_of_coarsestPlace_le
    {place : Nat}
    (coarse : interval.coarsestPlace ≤ place) :
    interval.high < 10 ^ place :=
  calc interval.high
    _ < 2 ^ (interval.high.log2 + 1) := Nat.lt_log2_self
    _ ≤ 10 ^ interval.coarsestPlace := two_pow_le_ten_pow _
    _ ≤ 10 ^ place := Nat.pow_le_pow_right (by decide) coarse

/-- No decimal of a grid that is coarser than the found one reads back. -/
theorem not_contains_coarser
    (valueInside : interval.contains interval.value = true)
    (positive : 0 < interval.low)
    (count : Nat) :
    interval.contains
        (count * 10 ^ ((interval.shortestFrom interval.coarsestPlace).place + 1)) =
      false := by
  rcases place_shortestFrom interval interval.coarsestPlace with coarsest | ⟨_, notFound⟩
  · rw [coarsest, Bool.eq_false_iff]
    intro inside
    obtain ⟨behindLow, beforeHigh, _⟩ := (contains_iff _ _).1 inside
    have beyond := @high_lt_of_coarsestPlace_le interval _ (Nat.le_succ _)
    have isZero : count = 0 := by
      apply Nat.eq_zero_of_not_pos
      intro some
      have atLeastOne := Nat.mul_le_mul_right (10 ^ (interval.coarsestPlace + 1)) some
      omega
    rw [isZero] at behindLow
    omega
  · exact not_contains_of_onGrid? valueInside notFound count

end Interval

/-! ## Numbers of digits -/

theorem low_pos
    {magnitude : Nat}
    (positive : 0 < magnitude) :
    0 < (Interval.ofMagnitude magnitude).low := by
  obtain ⟨below, rfl⟩ := Nat.exists_eq_succ_of_ne_zero positive.ne'
  have some : 0 < units (below + 1) :=
    positive.trans_le (Binary64.magnitude_le_units _)
  rw [low_ofMagnitude]
  positivity

/-- No decimal of a grid coarser than that of the shortest digits reads back. -/
theorem not_contains_coarser
    {magnitude : Nat}
    (positive : 0 < magnitude)
    (count : Nat) :
    (Interval.ofMagnitude magnitude).contains
        (count * 10 ^ ((shortest magnitude).place + 1)) =
      false :=
  Interval.not_contains_coarser
    (Interval.contains_value (Binary64.significand_pos positive)) (low_pos positive) count

section Digits

variable {magnitude digits zeros places : Nat}

theorem ten_pow_pos
    (exponent : Nat) :
    0 < 10 ^ exponent :=
  Nat.pow_pos (by decide)

/-- Digits that read back have their last place on the grid of the shortest ones or a finer one. -/
theorem place_le_shortest
    (positive : 0 < magnitude)
    (reads : Binary64.nearest (digits * 10 ^ zeros) (10 ^ places) = magnitude) :
    finestPlace + zeros ≤ (shortest magnitude).place + places := by
  have coarser := not_contains_coarser positive
  generalize (shortest magnitude).place = place at *
  apply Nat.le_of_not_lt
  intro isCoarser
  obtain ⟨more, moreIs⟩ := Nat.exists_eq_add_of_lt isCoarser
  have onGrid :
      amountOf (digits * 10 ^ more * 10 ^ (place + 1)) (10 ^ finestPlace) =
        amountOf (digits * 10 ^ zeros) (10 ^ places) := by
    apply Binary64.amountOf_eq_amountOf (ten_pow_pos _) (ten_pow_pos _)
    simp only [Nat.mul_assoc, ← Nat.pow_add]
    congr 2
    omega
  have inside := contains_iff_covers positive (digits * 10 ^ more * 10 ^ (place + 1))
  rw [onGrid, ← Binary64.nearest_eq_iff_covers (ten_pow_pos _), coarser] at inside
  cases inside.2 reads

/-- Digits that read back as a magnitude are at least as many as the shortest ones. -/
theorem digits_shortest_lt
    (positive : 0 < magnitude)
    (reads : Binary64.nearest (digits * 10 ^ zeros) (10 ^ places) = magnitude)
    {count : Nat}
    (few : digits < 10 ^ count) :
    (shortest magnitude).digits < 10 ^ count := by
  have finer := place_le_shortest positive reads
  have found := (contains_iff_covers positive _).1 (contains_shortest positive)
  have coarser := not_contains_coarser positive
  have covers := (Binary64.nearest_eq_iff_covers (ten_pow_pos places)).1 reads
  generalize shortest magnitude = shortest at *
  apply Nat.lt_of_not_le
  intro many
  cases count with
  | zero =>
      have noDigits : digits = 0 := Nat.lt_one_iff.1 few
      rw [noDigits, Nat.zero_mul, Binary64.nearest_zero] at reads
      exact positive.ne reads
  | succ less =>
      -- A power of ten lies between both, which is a decimal of the next coarser grid.
      have power :
          10 ^ less * 10 ^ (shortest.place + 1) = 10 ^ (less + 1) * 10 ^ shortest.place := by
        ring
      have atLeast :
          amountOf (digits * 10 ^ zeros) (10 ^ places) ≤
            amountOf (10 ^ less * 10 ^ (shortest.place + 1)) (10 ^ finestPlace) := by
        rw [Binary64.amountOf_le_amountOf_iff (ten_pow_pos _) (ten_pow_pos _), power,
          Nat.mul_assoc, Nat.mul_assoc, ← Nat.pow_add, ← Nat.pow_add]
        exact Nat.mul_le_mul few.le (Nat.pow_le_pow_right (by decide) (by omega))
      have atMost :
          amountOf (10 ^ less * 10 ^ (shortest.place + 1)) (10 ^ finestPlace) ≤
            amountOf (shortest.digits * 10 ^ shortest.place) (10 ^ finestPlace) := by
        rw [Binary64.amountOf_le_amountOf_iff (ten_pow_pos _) (ten_pow_pos _), power]
        exact Nat.mul_le_mul_right _ (Nat.mul_le_mul_right _ many)
      have inside := (contains_iff_covers positive _).2 (covers.between found atLeast atMost)
      rw [coarser] at inside
      cases inside

end Digits

/-! ## Significant digits -/

/-- The digits of a number without the zeros at both ends. -/
def significant
    (digits : List Char) :
    List Char :=
  (digits.dropWhile (· == '0')).rdropWhile (· == '0')

theorem natural_cons
    (digit : Char)
    (digits : List Char) :
    natural (digit :: digits) =
      10 ^ digits.length * (digit.toNat - '0'.toNat) + natural digits := by
  rw [natural, Nat.ofDigitChars_cons, Nat.ofDigitChars_eq_ofDigitChars_zero, Nat.mul_zero,
    Nat.zero_add]
  rfl

theorem natural_concat
    (digits : List Char)
    (digit : Char) :
    natural (digits ++ [digit]) = 10 * natural digits + (digit.toNat - '0'.toNat) := by
  rw [natural_append, Nat.ofDigitChars_cons, Nat.ofDigitChars_nil]

theorem toNat_of_isDigit
    {digit : Char}
    (isDigit : digit.isDigit = true) :
    '0'.toNat ≤ digit.toNat ∧ digit.toNat - '0'.toNat < 10 := by
  simp only [Char.isDigit, Bool.and_eq_true, decide_eq_true_eq, ge_iff_le,
    UInt32.le_iff_toNat_le] at isDigit
  change 48 ≤ digit.toNat ∧ digit.toNat ≤ 57 at isDigit
  change 48 ≤ digit.toNat ∧ digit.toNat - 48 < 10
  omega

/-- A number with some digits is less than the power of ten with as many zeros. -/
theorem natural_lt
    {digits : List Char}
    (allDigits : ∀ digit ∈ digits, digit.isDigit = true) :
    natural digits < 10 ^ digits.length := by
  induction digits with
  | nil =>
      decide
  | cons digit digits inductionHypothesis =>
      rw [List.forall_mem_cons] at allDigits
      have bound := (toNat_of_isDigit allDigits.1).2
      rw [natural_cons, List.length_cons, Nat.pow_succ]
      calc 10 ^ digits.length * (digit.toNat - '0'.toNat) + natural digits
        _ < 10 ^ digits.length * (digit.toNat - '0'.toNat) + 10 ^ digits.length :=
            Nat.add_lt_add_left (inductionHypothesis allDigits.2) _
        _ = 10 ^ digits.length * (digit.toNat - '0'.toNat + 1) := (Nat.mul_succ _ _).symm
        _ ≤ 10 ^ digits.length * 10 := Nat.mul_le_mul_left _ bound

/-- Without the zeros at both ends a number is smaller by a power of ten. -/
theorem exists_natural_eq
    (digits : List Char) :
    ∃ zeros, natural digits = natural (significant digits) * 10 ^ zeros := by
  have isZeros : ∀ run : List Char,
      (∀ digit ∈ run, (digit == '0') = true) → run = List.replicate run.length '0' := by
    intro run zeros
    exact List.eq_replicate_iff.2 ⟨rfl, fun digit member => eq_of_beq (zeros digit member)⟩
  have leading := isZeros (digits.takeWhile (· == '0')) fun _ => List.mem_takeWhile_imp
  have trailing := isZeros ((digits.dropWhile (· == '0')).rtakeWhile (· == '0'))
    fun _ => List.mem_rtakeWhile_imp
  refine ⟨((digits.dropWhile (· == '0')).rtakeWhile (· == '0')).length, ?_⟩
  calc natural digits
    _ = natural (digits.takeWhile (· == '0') ++ digits.dropWhile (· == '0')) := by
        rw [List.takeWhile_append_dropWhile]
    _ = natural (digits.dropWhile (· == '0')) := by
        rw [leading, natural_replicate_zero_append]
    _ = natural (significant digits ++ (digits.dropWhile (· == '0')).rtakeWhile (· == '0')) := by
        rw [significant, List.rdropWhile_append_rtakeWhile]
    _ = natural (significant digits) * 10 ^ _ := by
        rw [trailing, natural_append_replicate_zero, List.length_replicate, Nat.mul_comm]

theorem mem_of_mem_significant
    {digits : List Char}
    {digit : Char}
    (member : digit ∈ significant digits) :
    digit ∈ digits :=
  (List.dropWhile_suffix _).subset ((List.rdropWhile_prefix _ _).subset member)

/-- A digit that is not zero counts. -/
theorem weight_pos
    {digit : Char}
    (isDigit : digit.isDigit = true)
    (notZero : digit ≠ '0') :
    0 < digit.toNat - '0'.toNat := by
  have atLeast := (toNat_of_isDigit isDigit).1
  have differ : digit.toNat ≠ '0'.toNat := fun same => notZero (Char.toNat_inj.1 same)
  omega

section Significant

variable {digits : List Char}

/-- The first significant digit is not zero. -/
theorem le_natural_significant
    (allDigits : ∀ digit ∈ digits, digit.isDigit = true)
    (nonempty : significant digits ≠ []) :
    10 ^ ((significant digits).length - 1) ≤ natural (significant digits) := by
  obtain ⟨first, rest, parts⟩ := List.exists_cons_of_ne_nil nonempty
  have notZero : first ≠ '0' := by
    obtain ⟨trailing, whole⟩ := List.rdropWhile_prefix (· == '0') (digits.dropWhile (· == '0'))
    have stops := List.head?_dropWhile_not (· == '0') digits
    change significant digits ++ trailing = _ at whole
    rw [← whole, parts] at stops
    simpa using stops
  have isDigit : first.isDigit = true := by
    apply allDigits first (mem_of_mem_significant _)
    simp [parts]
  rw [parts, natural_cons, List.length_cons, Nat.add_sub_cancel]
  calc 10 ^ rest.length
    _ ≤ 10 ^ rest.length * (first.toNat - '0'.toNat) :=
        Nat.le_mul_of_pos_right _ (weight_pos isDigit notZero)
    _ ≤ _ := Nat.le_add_right _ _

/-- The last significant digit is not zero. -/
theorem natural_significant_mod_ten
    (allDigits : ∀ digit ∈ digits, digit.isDigit = true)
    (nonempty : significant digits ≠ []) :
    natural (significant digits) % 10 ≠ 0 := by
  have notZero := List.rdropWhile_last_not (· == '0') (digits.dropWhile (· == '0')) nonempty
  change ¬((significant digits).getLast nonempty == '0') = true at notZero
  have parts := List.dropLast_append_getLast nonempty
  have isDigit := allDigits _ (mem_of_mem_significant (List.getLast_mem nonempty))
  generalize (significant digits).getLast nonempty = last at *
  have bound := (toNat_of_isDigit isDigit).2
  have positive := weight_pos isDigit (by simpa using notZero)
  rw [← parts, natural_concat]
  omega

/-- Digits of a number that has few digits, up to a power of ten, are few. -/
theorem length_significant_le
    (allDigits : ∀ digit ∈ digits, digit.isDigit = true)
    {number power otherPower count : Nat}
    (same : natural digits * 10 ^ power = number * 10 ^ otherPower)
    (few : number < 10 ^ count) :
    (significant digits).length ≤ count := by
  rcases eq_or_ne (significant digits) [] with isEmpty | nonempty
  · rw [isEmpty]
    exact Nat.zero_le _
  have atLeast := le_natural_significant allDigits nonempty
  have lastDigit := natural_significant_mod_ten allDigits nonempty
  obtain ⟨zeros, naturalIs⟩ := exists_natural_eq digits
  rw [naturalIs, Nat.mul_assoc, ← Nat.pow_add] at same
  generalize natural (significant digits) = whole at *
  rcases Nat.lt_or_ge (zeros + power) otherPower with isCoarser | isFiner
  · -- The digits would end in a zero.
    obtain ⟨more, moreIs⟩ := Nat.exists_eq_add_of_lt isCoarser
    have shifted :
        number * 10 ^ otherPower = number * 10 ^ (more + 1) * 10 ^ (zeros + power) := by
      rw [moreIs]
      ring
    have wholeIs := Nat.eq_of_mul_eq_mul_right (ten_pow_pos _) (same.trans shifted)
    rw [wholeIs, Nat.pow_succ, ← Nat.mul_assoc, Nat.mul_mod_left] at lastDigit
    exact absurd rfl lastDigit
  · obtain ⟨more, moreIs⟩ := Nat.exists_eq_add_of_le isFiner
    have shifted : whole * 10 ^ (zeros + power) = whole * 10 ^ more * 10 ^ otherPower := by
      rw [moreIs]
      ring
    have numberIs := Nat.eq_of_mul_eq_mul_right (ten_pow_pos _) (shifted.symm.trans same)
    have below : 10 ^ ((significant digits).length - 1) < 10 ^ count :=
      calc 10 ^ ((significant digits).length - 1)
        _ ≤ whole := atLeast
        _ ≤ whole * 10 ^ more := Nat.le_mul_of_pos_right _ (ten_pow_pos _)
        _ = number := numberIs
        _ < 10 ^ count := few
    have fewer := (Nat.pow_lt_pow_iff_right (by decide)).1 below
    omega

end Significant

/-- No notation of a number has fewer significant digits than the shortest one. -/
theorem Notation.length_significant_le
    {magnitude : Nat}
    {written : Notation}
    (shows : written.Shows (shortest magnitude))
    {whole fraction : List Char}
    (allDigits : ∀ digit ∈ whole ++ fraction, digit.isDigit = true)
    (reads :
      Binary64.nearest (natural (whole ++ fraction)) (10 ^ fraction.length) = magnitude) :
    (significant (written.whole ++ written.fraction)).length ≤
      (significant (whole ++ fraction)).length := by
  have few :
      (shortest magnitude).digits < 10 ^ (significant (whole ++ fraction)).length := by
    rcases Nat.eq_zero_or_pos magnitude with rfl | positive
    · rw [shortest_zero]
      exact ten_pow_pos _
    · obtain ⟨zeros, naturalIs⟩ := exists_natural_eq (whole ++ fraction)
      rw [naturalIs] at reads
      apply digits_shortest_lt positive reads
      exact natural_lt fun digit member => allDigits digit (mem_of_mem_significant member)
  have writtenDigits : ∀ digit ∈ written.whole ++ written.fraction, digit.isDigit = true := by
    rw [List.forall_mem_append]
    exact ⟨written.whole_digits, written.fraction_digits⟩
  unfold Shows Notation.digits at shows
  rw [Nat.mul_assoc, ← Nat.pow_add] at shows
  exact Decimal.length_significant_le writtenDigits shows few

end LevelScript.Decimal
