/-
# RobotCombat.Proofs.Number.Formats — which words of a binary format are numbers

A word is no number exactly if its magnitude lies above infinity
(`unpack_eq_notANumber_iff`). Packing does not end up there (`unpack_pack_ne_notANumber`),
and neither does rounding (`normalize_ne_notANumber`).
-/
import Mathlib

namespace RobotCombat.Number

set_option autoImplicit false

open Float.Model (UnpackedFloat)
open Float.Model.UnpackedFloat

/-! ## Words of any format -/

section Words

variable {spec : Float.Model.Format}

theorem toNat_unpackExponent (word : BitVec spec.numBits) :
    (unpackExponent word).toNat =
      word.toNat / 2 ^ spec.mantissaBitsWithoutImplicit % 2 ^ spec.exponentBits := by
  rw [unpackExponent_def, BitVec.extractLsb'_toNat, Nat.shiftRight_eq_div_pow]

theorem toNat_unpackMantissa (word : BitVec spec.numBits) :
    (unpackMantissa word).toNat = word.toNat % 2 ^ spec.mantissaBitsWithoutImplicit := by
  rw [unpackMantissa_def, BitVec.extractLsb'_toNat, Nat.shiftRight_zero]

/-- A word is no number exactly if its exponent field is all ones and its mantissa is not
zero. -/
theorem unpack_eq_notANumber_iff_fields (word : BitVec spec.numBits) :
    unpack spec word = .notANumber ↔ unpackExponent word = -1#_ ∧ unpackMantissa word ≠ 0#_ := by
  unfold unpack
  dsimp only
  split
  · split <;> simp_all
  · split
    · split <;> simp_all
    · simp_all

/-- A word is no number exactly if its magnitude lies above that of infinity. -/
theorem unpack_eq_notANumber_iff (word : BitVec spec.numBits) :
    unpack spec word = .notANumber ↔
      (2 ^ spec.exponentBits - 1) * 2 ^ spec.mantissaBitsWithoutImplicit <
        word.toNat % 2 ^ (spec.mantissaBitsWithoutImplicit + spec.exponentBits) := by
  have ones : unpackExponent word = -1#_ ↔
      (unpackExponent word).toNat = 2 ^ spec.exponentBits - 1 := by
    rw [BitVec.neg_one_eq_allOnes, ← BitVec.toNat_inj, BitVec.toNat_allOnes]
  have zero : unpackMantissa word = 0#_ ↔ (unpackMantissa word).toNat = 0 := by
    rw [← BitVec.toNat_inj]
    rfl
  have split : word.toNat % 2 ^ (spec.mantissaBitsWithoutImplicit + spec.exponentBits) =
      (unpackMantissa word).toNat +
        2 ^ spec.mantissaBitsWithoutImplicit * (unpackExponent word).toNat := by
    rw [toNat_unpackExponent, toNat_unpackMantissa, pow_add, Nat.mod_mul]
  have exponent := (unpackExponent word).isLt
  have mantissa := (unpackMantissa word).isLt
  rw [unpack_eq_notANumber_iff_fields, ones, ne_eq, zero, split, Nat.mul_comm]
  generalize (unpackExponent word).toNat = e at *
  generalize (unpackMantissa word).toNat = m at *
  constructor
  · rintro ⟨rfl, some⟩
    omega
  · intro above
    have full : ¬ e + 1 ≤ 2 ^ spec.exponentBits - 1 := by
      intro less
      have step := Nat.mul_le_mul_left (2 ^ spec.mantissaBitsWithoutImplicit) less
      rw [Nat.mul_succ] at step
      omega
    obtain rfl : e = 2 ^ spec.exponentBits - 1 := by omega
    exact ⟨rfl, by omega⟩

/-- Packing keeps numbers apart from what is none. -/
theorem unpack_pack_ne_notANumber {u : UnpackedFloat} (number : u ≠ .notANumber) :
    unpack spec (pack spec u) ≠ .notANumber := by
  have infinite : ∀ s, ¬ unpackMantissa (packedInfinity spec s) ≠ 0#_ := fun s some =>
    some unpackMantissa_packComponents
  rw [ne_eq, unpack_eq_notANumber_iff_fields]
  rintro ⟨ones, some⟩
  cases u with
  | notANumber => exact number rfl
  | infinity s => exact infinite s some
  | zero s => exact some unpackMantissa_packComponents
  | finite s m e h =>
      unfold pack at ones some
      dsimp only at ones some
      split at some
      · exact infinite s some
      · rename_i small
        rw [if_neg small] at ones
        split at ones <;> rw [unpackExponent_packComponents, ← BitVec.toNat_inj,
          BitVec.neg_one_eq_allOnes, BitVec.toNat_allOnes] at ones
        -- a normal number stays below the exponent of infinity
        · rw [BitVec.toNat_ofNat, Nat.mod_eq_of_lt (by omega)] at ones
          omega
        · have several : 2 ≤ 2 ^ spec.exponentBits :=
            Nat.pow_le_pow_right Nat.two_pos spec.he
          rw [BitVec.toNat_zero] at ones
          omega

/-! ## Rounding -/

theorem roundWithAccuracy_ne_notANumber (s : Sign) (m : Nat) (e : Int)
    (a : Accuracy) : roundWithAccuracy spec s m e a ≠ .notANumber := by
  unfold roundWithAccuracy
  dsimp only
  split <;> simp

theorem normalize_ne_notANumber (m e : Int) (s : Sign) :
    UnpackedFloat.normalize spec m e s ≠ .notANumber := by
  unfold UnpackedFloat.normalize
  split
  · exact roundWithAccuracy_ne_notANumber _ _ _ _
  · simp
  · exact roundWithAccuracy_ne_notANumber _ _ _ _

end Words

end RobotCombat.Number
