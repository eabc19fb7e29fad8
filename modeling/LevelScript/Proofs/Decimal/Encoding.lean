import LevelScript.Decimal.Reading
import Mathlib

namespace LevelScript.Binary64

open Float.Model (UnpackedFloat Format)
open Float.Model.UnpackedFloat (unpackExponent unpackExponent_def)

/-!
# Encodings and values

A number is determined by its sign bit and its magnitude, negative zero included, and it
is finite exactly if its magnitude is below that of infinity.
-/

/-- The exponent is the number in the eleven bits above the mantissa. -/
theorem toNat_unpackExponent
    (encoding : BitVec Format.binary64.numBits) :
    (unpackExponent encoding).toNat = encoding.toNat / 2 ^ 52 % 2 ^ 11 := by
  rw [unpackExponent_def, BitVec.extractLsb'_toNat, Nat.shiftRight_eq_div_pow]

/-- Sign and magnitude determine a value. -/
theorem ofMagnitude_magnitude
    (value : Float) :
    ofMagnitude (isNegative value) (magnitude value) = value := by
  have bound : value.toBits.toNat < 2 ^ 64 := value.toBits.toNat_lt
  have place : signPlace = 2 ^ 63 := rfl
  have parts :
      (if isNegative value then signPlace + magnitude value else magnitude value) =
        value.toBits.toNat := by
    unfold isNegative magnitude
    rw [place]
    by_cases negative : 2 ^ 63 ≤ value.toBits.toNat
    · rw [if_pos (decide_eq_true negative)]
      omega
    · rw [if_neg (by simpa using negative)]
      omega
  unfold ofMagnitude
  rw [parts, UInt64.ofNat_toNat, Float.ofBits_toBits]

/-- The finite values are those with a magnitude below that of infinity. -/
theorem isFinite_iff
    (value : Float) :
    value.isFinite = true ↔ magnitude value < infinite := by
  have special :
      @unpackExponent Format.binary64 value.toBits.toBitVec = -1#_ ↔
        infinite ≤ magnitude value := by
    rw [← BitVec.toNat_inj, toNat_unpackExponent]
    change value.toBits.toNat / 2 ^ 52 % 2 ^ 11 = 2 ^ 11 - 1 ↔
      0x7ff * 2 ^ 52 ≤ value.toBits.toNat % 2 ^ 63
    omega
  rw [← Nat.not_le, ← special]
  change (UnpackedFloat.unpack Format.binary64 value.toBits.toBitVec).isFinite = true ↔ _
  unfold UnpackedFloat.unpack
  dsimp only
  split
  · rename_i isSpecial
    split <;>
      exact iff_of_false Bool.false_ne_true (not_not_intro isSpecial)
  · rename_i notSpecial
    split
    · split <;> exact iff_of_true rfl notSpecial
    · exact iff_of_true rfl notSpecial

end LevelScript.Binary64
