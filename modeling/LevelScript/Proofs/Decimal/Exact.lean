import LevelScript.Proofs.Decimal.Nearest
import LevelScript.Proofs.Decimal.ReadBack

namespace LevelScript

namespace Binary64

open Float.Model (UnpackedFloat Format)
open Float.Model.UnpackedFloat
  (unpackExponent unpackMantissa unpackMantissa_def unpackSign unpackSign_def)

/-!
# The rational numbers that values stand for

A finite value is a mantissa, scaled by a power of two. It is as many units as its magnitude
counts, so a rational number is rounded to the nearest finite value, and to none exactly from
the middle in front of infinity on.
-/

/-- The rational number that an unpacked value stands for, zero for those that are not finite. -/
def unpackedRational :
    UnpackedFloat →
    ℚ
  | .finite sign mantissa exponent _ => sign.apply mantissa * 2 ^ exponent
  | _ => 0

/-- The rational number that a finite value stands for. -/
def rational
    (value : Float) :
    ℚ :=
  unpackedRational (UnpackedFloat.unpack Format.binary64 value.toBits.toBitVec)

/-- A sign as a factor. -/
def signFactor
    (negative : Bool) :
    ℚ :=
  if negative then -1 else 1

/--
A finite value is nearest to a rational number. Of two values that are equally near it is the
one with an even mantissa, the last bit of an encoding.
-/
structure IsNearest
    (number : ℚ)
    (value : Float) :
    Prop where
  finite : value.isFinite = true
  nearest : ∀ other : Float,
    other.isFinite = true → |number - rational value| ≤ |number - rational other|
  tie : ∀ other : Float,
    other.isFinite = true →
      |number - rational value| = |number - rational other| →
        rational other = rational value ∨ value.toBits.toNat % 2 = 0

/-! ## Values in units -/

/-- The mantissa is the number in the low bits. -/
theorem toNat_unpackMantissa
    (encoding : BitVec Format.binary64.numBits) :
    (unpackMantissa encoding).toNat = encoding.toNat % 2 ^ 52 := by
  rw [unpackMantissa_def, BitVec.extractLsb'_toNat, Nat.shiftRight_zero]

/-- The sign is the number in the topmost bit. -/
theorem toNat_unpackSign
    (encoding : BitVec Format.binary64.numBits) :
    (unpackSign encoding).toNat = encoding.toNat / 2 ^ 63 % 2 := by
  rw [unpackSign_def, BitVec.extractLsb'_toNat, Nat.shiftRight_eq_div_pow]
  rfl

/-- The implicit bit stands in front of the mantissa. -/
theorem toNat_implicit_append
    {width : Nat}
    (mantissa : BitVec width) :
    (1#1 ++ mantissa).toNat = 2 ^ width + mantissa.toNat := by
  rw [BitVec.toNat_append, ← Nat.shiftLeft_add_eq_or_of_lt mantissa.isLt, BitVec.toNat_ofNat,
    Nat.shiftLeft_eq]
  simp

/-- A sign bit that is set makes a number negative. -/
theorem apply_ofBitVec
    (sign : BitVec 1)
    (mantissa : Nat) :
    ((UnpackedFloat.Sign.ofBitVec sign).apply mantissa : ℚ) =
      signFactor (sign.toNat = 1) * mantissa := by
  have bit := sign.isLt
  unfold UnpackedFloat.Sign.ofBitVec signFactor
  split
  case isTrue isZero =>
    simp [isZero, UnpackedFloat.Sign.apply]
  case isFalse notZero =>
    have isOne : sign.toNat = 1 := by
      rw [← BitVec.toNat_inj] at notZero
      change sign.toNat ≠ 0 at notZero
      omega
    simp [isOne, UnpackedFloat.Sign.apply]

/-- The fields of an encoding are those of its magnitude, and its sign. -/
theorem fields_eq
    (value : Float) :
    (@unpackExponent Format.binary64 value.toBits.toBitVec).toNat =
        magnitude value / exponentPlace ∧
      (@unpackMantissa Format.binary64 value.toBits.toBitVec).toNat =
        magnitude value % exponentPlace ∧
      decide ((@unpackSign Format.binary64 value.toBits.toBitVec).toNat = 1) =
        isNegative value := by
  have bound : value.toBits.toNat < 2 ^ 64 := value.toBits.toNat_lt
  rw [toNat_unpackExponent, toNat_unpackMantissa, toNat_unpackSign, UInt64.toNat_toBitVec]
  unfold magnitude isNegative
  rw [exponentPlace_eq, show signPlace = 2 ^ 63 from rfl, decide_eq_decide]
  omega

/-- Units are powers of two with a negative exponent. -/
theorem units_div_eq
    (magnitude : Nat) :
    (units magnitude : ℚ) / 2 ^ 1074 =
      significand magnitude * 2 ^ ((scale magnitude : ℤ) - 1074) := by
  have split : (2 : ℚ) ^ ((scale magnitude : ℤ) - 1074) = 2 ^ scale magnitude / 2 ^ 1074 := by
    rw [zpow_sub₀ two_ne_zero, zpow_natCast]
    rfl
  rw [split, units, Nat.cast_mul, Nat.cast_pow, Nat.cast_ofNat, mul_div_assoc]

/-- A finite value is its sign and as many units as its magnitude counts. -/
theorem rational_eq
    {value : Float}
    (finite : value.isFinite = true) :
    rational value = signFactor (isNegative value) * (units (magnitude value) / 2 ^ 1074) := by
  have belowInfinite := (isFinite_iff value).1 finite
  obtain ⟨exponentIs, mantissaIs, signIs⟩ := fields_eq value
  rw [units_div_eq, ← mul_assoc]
  unfold rational UnpackedFloat.unpack
  dsimp only
  split
  case isTrue special =>
    rw [special] at exponentIs
    change 2047 = _ at exponentIs
    rw [infinite, exponentPlace_eq] at belowInfinite
    rw [exponentPlace_eq] at exponentIs
    omega
  case isFalse =>
    split
    case isTrue subnormal =>
      rw [subnormal] at exponentIs
      change 0 = _ at exponentIs
      have small : magnitude value < exponentPlace :=
        (Nat.div_eq_zero_iff_lt (by decide)).1 exponentIs.symm
      have unscaled : scale (magnitude value) = 0 := by
        rw [scale, ← exponentIs]
      have isMantissa : significand (magnitude value) = magnitude value :=
        if_pos small
      rw [Nat.mod_eq_of_lt small] at mantissaIs
      rw [unscaled, isMantissa, ← mantissaIs]
      split
      case isTrue noMantissa =>
        rw [noMantissa]
        simp [unpackedRational]
      case isFalse mantissa =>
        simp only [unpackedRational]
        rw [apply_ofBitVec, signIs, subnormal]
        rfl
    case isFalse normal =>
      have exponentNonzero : magnitude value / exponentPlace ≠ 0 := by
        rw [← exponentIs]
        intro isZero
        exact normal (BitVec.eq_of_toNat_eq isZero)
      have large : ¬magnitude value < exponentPlace := by
        intro small
        exact exponentNonzero (Nat.div_eq_of_lt small)
      have isMantissa :
          significand (magnitude value) = exponentPlace + magnitude value % exponentPlace :=
        if_neg large
      have exponent :
          ((magnitude value / exponentPlace : Nat) : ℤ) - (1023 + 52) =
            (scale (magnitude value) : ℤ) - 1074 := by
        unfold scale
        omega
      simp only [unpackedRational]
      rw [apply_ofBitVec, signIs, toNat_implicit_append, mantissaIs, exponentIs, isMantissa,
        ← exponent]
      rfl

/-! ## Values of magnitudes -/

/-- An encoding is kept unless it is one of an undefined result. -/
theorem toBits_ofBits
    {bits : UInt64}
    (bound : bits.toNat % signPlace ≤ infinite) :
    (Float.ofBits bits).toBits = bits := by
  have valid : Format.binary64.Valid bits.toBitVec := by
    refine ⟨fun special mantissa => absurd ?_ mantissa⟩
    rw [← BitVec.toNat_inj, toNat_unpackExponent, UInt64.toNat_toBitVec] at special
    rw [← BitVec.toNat_inj, toNat_unpackMantissa, UInt64.toNat_toBitVec]
    change bits.toNat / 2 ^ 52 % 2 ^ 11 = 2047 at special
    change bits.toNat % 2 ^ 52 = 0
    rw [infinite, exponentPlace_eq, show signPlace = 2 ^ 63 from rfl] at bound
    omega
  have kept := Float.ofBits_toBits ⟨⟨bits, valid⟩⟩
  exact congrArg Float.toBits kept

/-- Up to that of infinity, a magnitude and a sign are those of a value. -/
theorem magnitude_ofMagnitude
    {number : Nat}
    (bound : number ≤ infinite)
    (negative : Bool) :
    magnitude (ofMagnitude negative number) = number ∧
      isNegative (ofMagnitude negative number) = negative := by
  rw [infinite, exponentPlace_eq] at bound
  have place : signPlace = 2 ^ 63 := rfl
  have bits :
      (UInt64.ofNat (if negative then signPlace + number else number)).toNat =
        if negative then signPlace + number else number := by
    rw [UInt64.toNat_ofNat_of_lt', place]
    rw [show UInt64.size = 2 ^ 64 from rfl, place]
    split <;> omega
  have kept : (ofMagnitude negative number).toBits.toNat =
      if negative then signPlace + number else number := by
    unfold ofMagnitude
    rw [toBits_ofBits, bits]
    rw [bits, infinite, exponentPlace_eq, place]
    split <;> omega
  unfold magnitude isNegative
  rw [kept, place]
  cases negative with
  | false =>
      simp only [Bool.false_eq_true, if_false, decide_eq_false_iff_not]
      omega
  | true =>
      simp only [if_true, decide_eq_true_eq]
      omega

/-! ## The nearest value -/

/-- Numbers from here on are too large: this is the middle in front of infinity. -/
def overflow : ℚ :=
  2 ^ 1024 - 2 ^ 970

theorem middle_infinite :
    middle (infinite - 1) = overflow * 2 ^ 1074 := by
  have sum : units (infinite - 1) + units (infinite - 1 + 1) + 2 * 2 ^ 970 * 2 ^ 1074 =
      2 * 2 ^ 1024 * 2 ^ 1074 := by
    decide +kernel
  have castSum := congrArg (Nat.cast (R := ℚ)) sum
  simp only [Nat.cast_add, Nat.cast_mul, Nat.cast_pow, Nat.cast_ofNat] at castSum
  unfold middle overflow
  generalize (2 : ℚ) ^ 1024 = large at *
  generalize (2 : ℚ) ^ 970 = half at *
  generalize (2 : ℚ) ^ 1074 = unit at *
  linarith

/-- The quotients that are rounded to a finite magnitude are those below the overflow. -/
theorem nearest_lt_infinite_iff
    {dividend divisor : Nat}
    (positive : 0 < divisor) :
    nearest dividend divisor < infinite ↔ (dividend : ℚ) / divisor < overflow := by
  have unitPositive : (0 : ℚ) < 2 ^ 1074 := pow_pos two_pos _
  have covers := (nearest_eq_iff_covers positive).1 (@rfl _ (nearest dividend divisor))
  rw [← mul_lt_mul_iff_left₀ unitPositive, ← middle_infinite, ← amountOf_eq]
  generalize amountOf dividend divisor = amount at covers
  generalize nearest dividend divisor = found at covers
  have isSucc : infinite - 1 + 1 = infinite := rfl
  constructor
  · intro below
    have inFront := strictMono_middle.monotone (Nat.le_pred_of_lt below)
    apply lt_of_le_of_ne (covers.above.trans inFront)
    -- The last finite magnitude is odd, so it does not cover the middle behind it.
    intro atOverflow
    have atMiddle : amount = middle found :=
      le_antisymm covers.above (inFront.trans atOverflow.ge)
    have isLast : found = infinite - 1 :=
      strictMono_middle.injective (atMiddle.symm.trans atOverflow)
    have even := covers.atAbove atMiddle
    rw [isLast] at even
    exact absurd even (by decide)
  · intro below
    apply Nat.lt_of_not_le
    intro beyond
    obtain ⟨less, rfl⟩ := Nat.exists_eq_add_of_le (isSucc.trans_le beyond)
    have behind := covers.below (infinite - 1 + less) (by omega)
    have atLeast := strictMono_middle.monotone (Nat.le_add_right (infinite - 1) less)
    linarith

/-- The distance of a signed number to a finite value, in units. -/
theorem abs_sub_rational
    {value : Float}
    (finite : value.isFinite = true)
    (negative : Bool)
    {number : ℚ}
    (nonnegative : 0 ≤ number) :
    |signFactor negative * number - rational value| * 2 ^ 1074 =
      if isNegative value = negative then
        |number * 2 ^ 1074 - units (magnitude value)|
      else
        number * 2 ^ 1074 + units (magnitude value) := by
  have unitPositive : (0 : ℚ) < 2 ^ 1074 := pow_pos two_pos _
  have countNonnegative : (0 : ℚ) ≤ units (magnitude value) := Nat.cast_nonneg _
  rw [rational_eq finite]
  generalize (2 : ℚ) ^ 1074 = unit at *
  generalize (units (magnitude value) : ℚ) = count at *
  have amountNonnegative := mul_nonneg nonnegative unitPositive.le
  have scaled :
      |signFactor negative * number - signFactor (isNegative value) * (count / unit)| * unit =
        |signFactor negative * (number * unit) - signFactor (isNegative value) * count| := by
    rw [← abs_of_pos unitPositive, ← abs_mul, abs_of_pos unitPositive]
    congr 1
    field_simp
  rw [scaled]
  generalize number * unit = amount at *
  unfold signFactor
  cases negative <;> cases isNegative value
  · simp
  · simp [abs_of_nonneg (add_nonneg amountNonnegative countNonnegative)]
  · rw [← abs_neg]
    simp [add_comm count, abs_of_nonneg (add_nonneg amountNonnegative countNonnegative)]
  · rw [← abs_neg]
    congr 1
    simp only [if_true]
    ring

/-- A value is nearest to a number of its sign if its magnitude covers the number. -/
theorem isNearest_of_covers
    {value : Float}
    (finite : value.isFinite = true)
    {number : ℚ}
    (nonnegative : 0 ≤ number)
    (covers : Covers (magnitude value) (number * 2 ^ 1074)) :
    IsNearest (signFactor (isNegative value) * number) value := by
  have unitPositive : (0 : ℚ) < 2 ^ 1074 := pow_pos two_pos _
  have lastBit : value.toBits.toNat % 2 = magnitude value % 2 := by
    rw [magnitude, show signPlace = 2 ^ 63 from rfl]
    omega
  have distances : ∀ other : Float, other.isFinite = true → _ :=
    fun _ otherFinite => abs_sub_rational otherFinite (isNegative value) nonnegative
  have amountNonnegative := mul_nonneg nonnegative unitPositive.le
  have distance := distances value finite
  rw [if_pos rfl] at distance
  generalize (2 : ℚ) ^ 1074 = unit at *
  refine ⟨finite, ?_, ?_⟩
  · intro other otherFinite
    have nearer := (covers.nearest (magnitude other)).1
    rw [← mul_le_mul_iff_left₀ unitPositive, distance, distances other otherFinite]
    split
    · exact nearer
    · have countNonnegative : (0 : ℚ) ≤ units (magnitude other) := Nat.cast_nonneg _
      exact nearer.trans (abs_le.2 ⟨by linarith, by linarith⟩)
  · intro other otherFinite same
    rw [same, distances other otherFinite] at distance
    split at distance
    case isTrue sameSign =>
      rcases (covers.nearest (magnitude other)).2 distance.symm with sameMagnitude | even
      · left
        rw [rational_eq otherFinite, rational_eq finite, sameSign, sameMagnitude]
      · exact .inr (lastBit.trans even)
    case isFalse =>
      -- Zero is not farther than a value of the other sign, so the tie is one with zero.
      have countNonnegative : (0 : ℚ) ≤ units (magnitude other) := Nat.cast_nonneg _
      obtain ⟨nearerThanZero, tieWithZero⟩ := covers.nearest 0
      rw [units_zero, Nat.cast_zero, sub_zero, abs_of_nonneg amountNonnegative]
        at nearerThanZero tieWithZero
      right
      rw [lastBit]
      rcases tieWithZero (by linarith) with isZero | even
      · rw [← isZero]
      · exact even

end Binary64

namespace Decimal

/-- The rational number that is written with digits before and after a point. -/
def rational
    (whole fraction : List Char) :
    ℚ :=
  natural whole + natural fraction / 10 ^ fraction.length

theorem rational_nonneg
    (whole fraction : List Char) :
    0 ≤ rational whole fraction := by
  unfold rational
  positivity

/-- Without its point, a number is larger by one factor of ten for each digit after it. -/
theorem rational_eq
    (whole fraction : List Char) :
    rational whole fraction =
      natural (whole ++ fraction) / (Nat.pow 10 fraction.length : Nat) := by
  have shifted :
      natural (whole ++ fraction) = 10 ^ fraction.length * natural whole + natural fraction := by
    rw [natural_append, Nat.ofDigitChars_eq_ofDigitChars_zero]
    rfl
  have positive : (10 : ℚ) ^ fraction.length ≠ 0 := pow_ne_zero _ (by norm_num)
  rw [shifted, rational, Nat.pow_eq]
  push_cast
  field_simp

/--
Reading digits rounds the number that they stand for. The value has the sign that was read; it
is finite exactly if the number stays below the overflow, and then it is nearest to the number.
-/
theorem ofDigits_isNearest
    (negative : Bool)
    (whole fraction : List Char) :
    Binary64.isNegative (ofDigits negative whole fraction) = negative ∧
      ((ofDigits negative whole fraction).isFinite = true ↔
        rational whole fraction < Binary64.overflow) ∧
      (rational whole fraction < Binary64.overflow →
        Binary64.IsNearest (Binary64.signFactor negative * rational whole fraction)
          (ofDigits negative whole fraction)) := by
  have positive : 0 < Nat.pow 10 fraction.length := Nat.pow_pos (by decide)
  have below := @Binary64.nearest_lt_infinite_iff (natural (whole ++ fraction)) _ positive
  have covers := (Binary64.nearest_eq_iff_covers positive).1
    (@rfl _ (Binary64.nearest (natural (whole ++ fraction)) (Nat.pow 10 fraction.length)))
  rw [Binary64.amountOf_eq, ← rational_eq] at covers
  rw [← rational_eq] at below
  unfold ofDigits ofFraction
  generalize Binary64.nearest _ _ = found at *
  obtain ⟨magnitude, sign⟩ :=
    Binary64.magnitude_ofMagnitude (Nat.min_le_right found Binary64.infinite) negative
  generalize Binary64.ofMagnitude negative (min found Binary64.infinite) = value at *
  have finite := Binary64.isFinite_iff value
  rw [magnitude, min_lt_iff, or_iff_left (lt_irrefl _), below] at finite
  refine ⟨sign, finite, fun inRange => ?_⟩
  rw [min_eq_left (below.2 inRange).le] at magnitude
  rw [← magnitude] at covers
  rw [← sign]
  exact Binary64.isNearest_of_covers (finite.2 inRange) (rational_nonneg _ _) covers

end Decimal

end LevelScript
