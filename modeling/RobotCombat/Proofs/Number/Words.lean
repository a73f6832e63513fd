/-
# RobotCombat.Proofs.Number.Words — conversions and products are numbers

No rounding ends up above infinity, where the words are that are no numbers. So

* `ofWord_ne_nan`, `ofNat_ne_nan`, `ofDouble_ne_nan`: rounding to 32 bits gives a number;
* `neg_ne_nan`, `double_neg_ne_nan`: so does taking the negative;
* `mul_ne_nan`, `div_ne_nan`: a 64-bit number times or over a finite one that is not zero
  is a number.
-/
import RobotCombat.Proofs.Number.Side

namespace RobotCombat.Number

set_option autoImplicit false

open Float.Model (UnpackedFloat)
open Float.Model.UnpackedFloat

/-! ## Numbers of 32 bits -/

/-- A magnitude that is not above infinity makes a number. -/
theorem ofWord_ne_nan (negative : Bool) {magnitude : Nat}
    (below : magnitude ≤ single.infinityWord) : ofWord negative magnitude ≠ .nan := by
  have infinity : single.infinityWord = 2139095040 := rfl
  have sign : single.signWord = 2 ^ 31 := rfl
  rw [infinity] at below
  have magnitude_eq : (UInt32.ofNat (single.signed negative magnitude)).toBitVec.toNat % 2 ^ 31 =
      magnitude := by
    rw [UInt32.toNat_toBitVec, UInt32.toNat_ofNat']
    unfold Format.signed
    rw [sign]
    cases negative <;> simp <;> omega
  rw [← unpack_ne_notANumber_iff]
  apply unpack_pack_ne_notANumber
  intro missing
  rw [unpack_eq_notANumber_iff] at missing
  have above : 2139095040 <
      (UInt32.ofNat (single.signed negative magnitude)).toBitVec.toNat % 2 ^ 31 := missing
  omega

theorem nearest_le_infinityWord (f : Format) (num den : Nat) :
    f.nearest num den ≤ f.infinityWord := by
  unfold Format.nearest
  split
  · exact Nat.zero_le _
  · exact Nat.min_le_right _ _

theorem ofNat_ne_nan (n : Nat) : Number.ofNat n ≠ .nan :=
  ofWord_ne_nan false (nearest_le_infinityWord single n 1)

theorem neg_ne_notANumber {u : UnpackedFloat} (number : u ≠ .notANumber) :
    u.neg ≠ .notANumber := by
  cases u <;> simp_all [UnpackedFloat.neg]

theorem neg_ne_nan {x : Float32} (number : x ≠ .nan) : -x ≠ .nan := by
  rw [← unpack_ne_notANumber_iff] at number ⊢
  exact unpack_pack_ne_notANumber (neg_ne_notANumber number)

/-! ## Numbers of 64 bits -/

section Double

variable {x y : Float}

theorem double_unpack_ne_notANumber_iff (x : Float) :
    x.toModel.unpack ≠ .notANumber ↔ x ≠ .nan := by
  have reading : x.isNaN = x.toModel.unpack.isNaN := rfl
  rw [Float.isNaN_eq_decide_eq_nan] at reading
  rw [ne_eq, ne_eq, ← UnpackedFloat.isNaN_iff, ← reading, decide_eq_true_iff]

theorem double_neg_ne_nan (number : x ≠ .nan) : -x ≠ .nan := by
  rw [← double_unpack_ne_notANumber_iff] at number ⊢
  exact unpack_pack_ne_notANumber (neg_ne_notANumber number)

/-- A finite number that is not zero. -/
def IsScale (x : Float) : Prop := ∃ s m e h, x.toModel.unpack = .finite s m e h

theorem isScale_of_positive (finite : x.isFinite = true) (positive : 0 < x) : IsScale x := by
  have bounded : x.toModel.unpack.isFinite = true := finite
  have less : decide ((0 : Float).toModel < x.toModel) = true := positive
  have above : UnpackedFloat.compare (.zero .positive) x.toModel.unpack = some .lt :=
    beq_iff_eq.mp (of_decide_eq_true less)
  unfold IsScale
  cases reading : x.toModel.unpack with
  | finite s m e h => exact ⟨s, m, e, h, rfl⟩
  | zero s => simp [reading, UnpackedFloat.compare] at above
  | infinity s => simp [reading, UnpackedFloat.isFinite] at bounded
  | notANumber => simp [reading, UnpackedFloat.isFinite] at bounded

/-- A number times a scale is a number. -/
theorem mul_ne_nan (number : x ≠ .nan) (scale : IsScale y) : x * y ≠ .nan := by
  obtain ⟨s, m, e, h, reading⟩ := scale
  rw [← double_unpack_ne_notANumber_iff] at number ⊢
  have product : (x * y).toModel = .pack (UnpackedFloat.mul .binary64 x.toModel.unpack
      y.toModel.unpack) := rfl
  rw [product]
  refine unpack_pack_ne_notANumber ?_
  rw [reading]
  cases known : x.toModel.unpack with
  | notANumber => exact absurd known number
  | infinity s' => simp [UnpackedFloat.mul]
  | zero s' => simp [UnpackedFloat.mul]
  | finite s' m' e' h' => exact roundWithAccuracy_ne_notANumber _ _ _ _

/-- A number over a scale is a number. -/
theorem div_ne_nan (number : x ≠ .nan) (scale : IsScale y) : x / y ≠ .nan := by
  obtain ⟨s, m, e, h, reading⟩ := scale
  rw [← double_unpack_ne_notANumber_iff] at number ⊢
  have quotient : (x / y).toModel = .pack (UnpackedFloat.div .binary64 x.toModel.unpack
      y.toModel.unpack) := rfl
  rw [quotient]
  refine unpack_pack_ne_notANumber ?_
  rw [reading]
  cases known : x.toModel.unpack with
  | notANumber => exact absurd known number
  | infinity s' => simp [UnpackedFloat.div]
  | zero s' => simp [UnpackedFloat.div]
  | finite s' m' e' h' => exact roundWithAccuracy_ne_notANumber _ _ _ _

theorem toFloat_ne_nan (n : UInt64) : n.toFloat ≠ .nan := by
  rw [← double_unpack_ne_notANumber_iff]
  exact unpack_pack_ne_notANumber (normalize_ne_notANumber n.toNat 0 .positive)

/-- The word of a number reads as one. -/
theorem double_decode_ne_notANumber (number : x ≠ .nan) :
    double.decode x.toBits.toNat ≠ .notANumber := by
  rw [← double_unpack_ne_notANumber_iff] at number
  intro missing
  refine number ((unpack_eq_notANumber_iff _).mpr ?_)
  show double.infinityWord < x.toBits.toNat % double.signWord
  unfold Format.decode at missing
  dsimp only at missing
  split at missing
  · assumption
  · split at missing
    · cases missing
    · split at missing <;> cases missing

/-- The nearest 32-bit number to a 64-bit one is a number. -/
theorem ofDouble_ne_nan (number : x ≠ .nan) : ofDouble x ≠ .nan := by
  unfold ofDouble
  split
  · exact ofWord_ne_nan _ (nearest_le_infinityWord _ _ _)
  · exact ofWord_ne_nan _ le_rfl
  · rename_i missing
    exact absurd missing (double_decode_ne_notANumber number)

end Double

end RobotCombat.Number
