import LevelScript.Decimal.Layout
import LevelScript.Proofs.Decimal.Encoding
import LevelScript.Proofs.Decimal.Interval

namespace LevelScript.Decimal

/-!
# Reading back a printed number

The plain text of a finite number is a sign, digits, and possibly a point with more digits.
Read as a number again, it gives the same value bit for bit, negative zero included.
-/

/-- Digits with at least one before the point, and a point only where digits follow it. -/
structure Notation where
  whole : List Char
  fraction : List Char
  whole_ne_nil : whole ≠ []
  whole_digits : ∀ digit ∈ whole, digit.isDigit = true
  fraction_digits : ∀ digit ∈ fraction, digit.isDigit = true

namespace Notation

/-- The characters of the notation. -/
def text
    (written : Notation) :
    List Char :=
  written.whole ++ if written.fraction = [] then [] else '.' :: written.fraction

/-- The number that all digits count, read as if there were no point. -/
def digits
    (written : Notation) :
    Nat :=
  natural (written.whole ++ written.fraction)

/-- The notation stands for as many steps of the finest grid as the given digits do. -/
def Shows
    (written : Notation)
    (found : Digits) :
    Prop :=
  written.digits * 10 ^ finestPlace =
    found.digits * 10 ^ found.place * 10 ^ written.fraction.length

end Notation

/-- The number of a digit string is shifted by the digits that follow it. -/
theorem natural_append
    (first second : List Char) :
    natural (first ++ second) = Nat.ofDigitChars 10 second (natural first) :=
  Nat.ofDigitChars_append 0

/-- Zeros in front do not count. -/
theorem natural_replicate_zero_append
    (count : Nat)
    (digits : List Char) :
    natural (List.replicate count '0' ++ digits) = natural digits := by
  rw [natural_append, natural, Nat.ofDigitChars_replicate_zero, Nat.mul_zero]
  rfl

/-- Each zero at the end counts as a factor of ten. -/
theorem natural_append_replicate_zero
    (count : Nat)
    (digits : List Char) :
    natural (digits ++ List.replicate count '0') = 10 ^ count * natural digits := by
  rw [natural_append, Nat.ofDigitChars_replicate_zero]

namespace Interval

/-- Where the value itself reads back, so does the decimal that is found on a grid. -/
theorem contains_of_onGrid?
    {interval : Interval}
    {place : Nat}
    {found : Digits}
    (onGrid : interval.onGrid? place = some found) :
    interval.contains (found.digits * 10 ^ found.place) = true := by
  unfold onGrid? at onGrid
  dsimp only at onGrid
  rw [Nat.pow_eq] at onGrid
  split at onGrid
  · rename_i belowInside aboveInside
    cases onGrid
    dsimp only
    split
    · exact belowInside
    · exact aboveInside
  · rename_i belowInside _
    cases onGrid
    exact belowInside
  · rename_i _ aboveInside
    cases onGrid
    exact aboveInside
  · cases onGrid

/-- The search ends with a decimal that reads back. -/
theorem contains_shortestFrom
    {interval : Interval}
    (valueInside : interval.contains interval.value = true)
    (place : Nat) :
    interval.contains
        ((interval.shortestFrom place).digits * 10 ^ (interval.shortestFrom place).place) =
      true := by
  induction place with
  | zero =>
      simpa [shortestFrom] using valueInside
  | succ place inductionHypothesis =>
      unfold shortestFrom
      cases onGrid : interval.onGrid? (place + 1) with
      | none =>
          exact inductionHypothesis
      | some found =>
          exact contains_of_onGrid? onGrid

/-- The value of a magnitude lies in its interval. -/
theorem contains_value
    {magnitude : Nat}
    (positive : 0 < Binary64.significand magnitude) :
    (ofMagnitude magnitude).contains (ofMagnitude magnitude).value = true := by
  have stepPositive : ∀ scale place, 0 < Nat.pow 2 scale * Nat.pow 5 place := by
    intro scale place
    exact Nat.mul_pos (Nat.pow_pos (by decide)) (Nat.pow_pos (by decide))
  have stepIs := stepPositive (Binary64.scale magnitude) finestPlace
  rw [contains_iff]
  unfold ofMagnitude
  dsimp only
  generalize Nat.pow 2 (Binary64.scale magnitude) * Nat.pow 5 finestPlace = step at *
  have above :
      4 * Binary64.significand magnitude * step <
        (4 * Binary64.significand magnitude + 2) * step :=
    Nat.mul_lt_mul_of_pos_right (by omega) stepIs
  have below :
      (4 * Binary64.significand magnitude -
            if Binary64.significand magnitude = Binary64.exponentPlace ∧
              0 < Binary64.scale magnitude then 1 else 2) * step <
        4 * Binary64.significand magnitude * step := by
    apply Nat.mul_lt_mul_of_pos_right _ stepIs
    split <;> omega
  omega

end Interval

/-- The shortest digits of a positive magnitude read back as this magnitude. -/
theorem contains_shortest
    {magnitude : Nat}
    (positive : 0 < magnitude) :
    (Interval.ofMagnitude magnitude).contains
        ((shortest magnitude).digits * 10 ^ (shortest magnitude).place) =
      true :=
  Interval.contains_shortestFrom
    (Interval.contains_value (Binary64.significand_pos positive)) _

/-- Zero has no digits but zeros. -/
theorem shortest_zero :
    (shortest 0).digits = 0 := by
  decide +kernel

namespace Layout

variable {digits : List Char}

private theorem isDigit_of_mem_zeros
    {count : Nat}
    {digit : Char}
    (member : digit ∈ List.replicate count '0') :
    digit.isDigit = true := by
  rw [List.eq_of_mem_replicate member]
  decide

/-- A number below one is a zero, the point and zeros in front of the digits. -/
private theorem exists_notation_below_one
    (nonempty : digits ≠ [])
    (allDigits : ∀ digit ∈ digits, digit.isDigit = true)
    {finest place zeros : Nat}
    (zerosIs : finest = zeros + place + digits.length) :
    ∃ written : Notation,
      '0' :: '.' :: (List.replicate zeros '0' ++ digits) = written.text ∧
        written.digits * 10 ^ finest =
          natural digits * 10 ^ place * 10 ^ written.fraction.length := by
  have zeroIsDigit : ∀ digit ∈ ['0'], digit.isDigit = true :=
    fun _ => @isDigit_of_mem_zeros 1 _
  refine ⟨⟨['0'], List.replicate zeros '0' ++ digits, by simp, zeroIsDigit, ?_⟩, ?_, ?_⟩
  · intro digit member
    exact (List.mem_append.1 member).elim isDigit_of_mem_zeros (allDigits digit)
  · simp [Notation.text, nonempty]
  · have leading := natural_replicate_zero_append (zeros + 1) digits
    rw [List.replicate_succ, List.cons_append] at leading
    simp only [Notation.digits, List.cons_append, List.nil_append, leading,
      List.length_append, List.length_replicate, zerosIs, Nat.pow_add]
    ac_rfl

/-- The point may stand between two digits. -/
private theorem exists_notation_within
    (allDigits : ∀ digit ∈ digits, digit.isDigit = true)
    {finest place whole : Nat}
    (wholeIs : place + digits.length = finest + whole)
    (positive : 0 < whole)
    (inside : whole < digits.length) :
    ∃ written : Notation,
      digits.take whole ++ '.' :: digits.drop whole = written.text ∧
        written.digits * 10 ^ finest =
          natural digits * 10 ^ place * 10 ^ written.fraction.length := by
  have parts := List.take_append_drop whole digits
  have someWhole : digits.take whole ≠ [] := by
    rw [← List.length_pos_iff, List.length_take]
    omega
  have someFraction : digits.drop whole ≠ [] := by
    rw [← List.length_pos_iff, List.length_drop]
    omega
  refine ⟨⟨digits.take whole, digits.drop whole, someWhole, ?_, ?_⟩, ?_, ?_⟩
  · intro digit member
    exact allDigits digit (List.mem_of_mem_take member)
  · intro digit member
    exact allDigits digit (List.mem_of_mem_drop member)
  · simp [Notation.text, someFraction]
  · have places : finest = place + (digits.length - whole) := by
      omega
    simp only [Notation.digits, parts, List.length_drop]
    rw [places, Nat.pow_add, Nat.mul_assoc]

/-- A large number is filled up with zeros and has no point. -/
private theorem exists_notation_filled
    (nonempty : digits ≠ [])
    (allDigits : ∀ digit ∈ digits, digit.isDigit = true)
    {finest place zeros : Nat}
    (zerosIs : place = zeros + finest) :
    ∃ written : Notation,
      digits ++ List.replicate zeros '0' = written.text ∧
        written.digits * 10 ^ finest =
          natural digits * 10 ^ place * 10 ^ written.fraction.length := by
  refine
    ⟨⟨digits ++ List.replicate zeros '0', [], by simp [nonempty], ?_, by simp⟩, ?_, ?_⟩
  · intro digit member
    exact (List.mem_append.1 member).elim (allDigits digit) isDigit_of_mem_zeros
  · simp [Notation.text]
  · simp only [Notation.digits, List.append_nil, natural_append_replicate_zero,
      List.length_nil, Nat.pow_zero, Nat.mul_one, zerosIs, Nat.pow_add]
    ac_rfl

/-- Digits in plain layout are a notation of their value on the finest grid. -/
theorem exists_notation_positional
    (nonempty : digits ≠ [])
    (allDigits : ∀ digit ∈ digits, digit.isDigit = true)
    (finest place : Nat) :
    ∃ written : Notation,
      plain.positional digits
            (((place + digits.length : Nat) : Int) - ((finest + 1 : Nat) : Int)) =
          written.text ∧
        written.digits * 10 ^ finest =
          natural digits * 10 ^ place * 10 ^ written.fraction.length := by
  have lengthPositive := List.length_pos_iff.2 nonempty
  unfold positional
  dsimp only
  by_cases belowOne :
      ((place + digits.length : Nat) : Int) - ((finest + 1 : Nat) : Int) < 0
  · rw [if_pos belowOne]
    exact exists_notation_below_one nonempty allDigits (by omega)
  · rw [if_neg belowOne]
    split
    · exact exists_notation_within allDigits (by omega) (by omega) ‹_›
    · rw [if_neg (by decide), List.append_nil]
      exact exists_notation_filled nonempty allDigits (by omega)

/-- The plain text of a finite magnitude is a notation of its shortest digits. -/
theorem exists_notation_magnitudeText
    (magnitude : Nat) :
    ∃ written : Notation,
      plain.magnitudeText magnitude = written.text ∧ written.Shows (shortest magnitude) := by
  unfold magnitudeText
  by_cases zero : magnitude = 0
  · subst zero
    have zeroIsDigit : ∀ digit ∈ ['0'], digit.isDigit = true :=
      fun _ => @isDigit_of_mem_zeros 1 _
    refine ⟨⟨['0'], [], by simp, zeroIsDigit, by simp⟩, rfl, ?_⟩
    have noDigits : natural ['0'] = 0 := by
      decide
    simp [Notation.Shows, Notation.digits, noDigits, shortest_zero]
  · have unmarked : ∀ exponent, plain.marksExponent exponent = false := by
      intro exponent
      rfl
    rw [if_neg zero]
    dsimp only
    rw [if_neg (by simp [unmarked])]
    generalize shortest magnitude = found at *
    obtain ⟨written, shape, value⟩ :=
      @exists_notation_positional (Nat.toDigits 10 found.digits) Nat.toDigits_ne_nil
        (fun digit member => Nat.isDigit_of_mem_toDigits (by decide) (by decide) member)
        finestPlace found.place
    rw [natural, Nat.ofDigitChars_ten_toDigits] at value
    exact ⟨written, shape, value⟩

/-- The shortest digits of a magnitude are rounded to the magnitude, however they are written. -/
theorem nearest_of_shows_shortest
    {magnitude : Nat}
    {written : Notation}
    (shows : written.Shows (shortest magnitude)) :
    Binary64.nearest written.digits (10 ^ written.fraction.length) = magnitude := by
  rcases Nat.eq_zero_or_pos magnitude with rfl | positive
  · rw [Notation.Shows, shortest_zero, Nat.zero_mul, Nat.zero_mul, Nat.mul_eq_zero,
      or_iff_left (Nat.pow_pos (by decide)).ne'] at shows
    rw [shows, Binary64.nearest_zero]
  · exact
      nearest_of_contains positive (Nat.pow_pos (by decide)) (contains_shortest positive) shows

/-- The plain text of a finite number has its shortest digits and reads back as the number. -/
theorem exists_notation_characters
    {value : Float}
    (finite : value.isFinite = true) :
    ∃ written : Notation,
      plain.characters value =
          (if Binary64.isNegative value then ['-'] else []) ++ written.text ∧
        ofDigits (Binary64.isNegative value) written.whole written.fraction = value ∧
        written.Shows (shortest (Binary64.magnitude value)) := by
  have bound := (Binary64.isFinite_iff value).1 finite
  obtain ⟨written, shape, shows⟩ :=
    exists_notation_magnitudeText (Binary64.magnitude value)
  refine ⟨written, ?_, ?_, shows⟩
  · unfold characters
    dsimp only
    rw [if_neg (Nat.not_lt_of_lt bound), if_neg (Nat.ne_of_lt bound), shape]
    split <;> rfl
  · have small :
        min (Binary64.magnitude value) Binary64.infinite = Binary64.magnitude value :=
      Nat.min_eq_left (Nat.le_of_lt bound)
    unfold ofDigits ofFraction
    change
      Binary64.ofMagnitude _
        (min (Binary64.nearest written.digits (10 ^ written.fraction.length)) _) = value
    rw [nearest_of_shows_shortest shows, small, Binary64.ofMagnitude_magnitude]

end Layout

end LevelScript.Decimal
