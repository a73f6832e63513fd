/-
# RobotCombat.Proofs.Number.Difference — a difference is zero only where it must be

A difference of 32-bit numbers that is not exactly zero never rounds to zero: the
exact difference is a multiple of the smallest positive number, and rounding
keeps at least the leading digit of its mantissa (`round_finite`). So

* `sub_ne_nan`, `add_ne_nan`: a finite number less or and a number make a number;
* `sub_self_of_finite`: a finite number less itself is positive zero;
* `sub_eq_zero_of_positive`: a difference of positive numbers that lies at zero is positive
  zero, never negative zero.
-/
import RobotCombat.Proofs.Number.Formats
import RobotCombat.Proofs.Number.Order

namespace RobotCombat.Number

set_option autoImplicit false

open Float.Model (Format UnpackedFloat totalExponent)
open Float.Model.UnpackedFloat

/-! ## Rounding keeps a leading digit -/

theorem shiftRight_mantissa (em : ExtendedMantissa) (n : Nat) :
    (em >>> n).mantissa = em.mantissa / 2 ^ n := by
  induction n with
  | zero => exact (Nat.div_one _).symm
  | succ n ih =>
      show (em >>> n).mantissa / 2 = _
      rw [ih, Nat.div_div_eq_div_mul, pow_succ]

theorem ofMantissaAndAccuracy_exact (m : Nat) :
    (ExtendedMantissa.ofMantissaAndAccuracy m .exact).mantissa = m := rfl

theorem mantissa_le_rounded (em : ExtendedMantissa) : em.mantissa ≤ em.roundedMantissa := by
  rcases em with ⟨m, _ | _, _ | _⟩ <;>
    simp [ExtendedMantissa.roundedMantissa, ExtendedMantissa.accuracy, Accuracy.roundToNearestEven]

/-- The digits that a mantissa loses on the way to its target exponent: all but
the leading twenty-four. -/
theorem lost_digits (m : Nat) {e : Int} (he : -149 ≤ e) :
    (Format.binary32.targetExponent (totalExponent m e) - e).toNat = m.log2 - 23 := by
  have least : Format.binary32.minExponent = -149 := by decide
  have width : Format.binary32.mantissaBits = 24 := rfl
  simp only [Format.targetExponent, totalExponent, least, width]
  omega

/-- What is left of a positive mantissa is positive and fits the format. -/
theorem kept_digits {m : Nat} (hm : 0 < m) :
    0 < m / 2 ^ (m.log2 - 23) ∧ m / 2 ^ (m.log2 - 23) < 2 ^ 24 := by
  have low : 2 ^ m.log2 ≤ m := Nat.log2_self_le hm.ne'
  have high : m < 2 ^ (m.log2 + 1) := Nat.lt_log2_self
  constructor
  · have fewer : 2 ^ (m.log2 - 23) ≤ 2 ^ m.log2 := Nat.pow_le_pow_right (by omega) (by omega)
    exact Nat.div_pos (fewer.trans low) (by positivity)
  · rw [Nat.div_lt_iff_lt_mul (by positivity), ← pow_add]
    exact high.trans_le (Nat.pow_le_pow_right (by omega) (by omega))

theorem shiftToTargetExponent_exact (m : Nat) {e : Int} (he : -149 ≤ e) :
    (shiftToTargetExponent .binary32 m e .exact).1.mantissa = m / 2 ^ (m.log2 - 23) ∧
      (shiftToTargetExponent .binary32 m e .exact).2 = e + (m.log2 - 23 : Nat) := by
  simp only [shiftToTargetExponent, shiftToExponent, lost_digits m he, shiftRight_mantissa,
    ofMantissaAndAccuracy_exact, and_self]

theorem roundWithAccuracy_finite (s : Sign) {m : Nat} (hm : 0 < m) {e : Int} (he : -149 ≤ e) :
    ∃ m' e', ∃ h : 0 < m', roundWithAccuracy .binary32 s m e .exact = .finite s m' e' h ∧
      m' < 2 ^ 24 ∧ -149 ≤ e' := by
  obtain ⟨first, firstExponent⟩ := shiftToTargetExponent_exact m he
  unfold roundWithAccuracy
  generalize shiftToTargetExponent .binary32 m e .exact = shifted at *
  obtain ⟨em, e₁⟩ := shifted
  simp only at first firstExponent ⊢
  have positive : 0 < em.roundedMantissa := by
    have kept := (kept_digits hm).1
    have grown := mantissa_le_rounded em
    omega
  have high : -149 ≤ e₁ := by omega
  obtain ⟨second, secondExponent⟩ := shiftToTargetExponent_exact em.roundedMantissa high
  obtain ⟨stays, fits⟩ := kept_digits positive
  rw [← second] at stays fits
  rw [dif_neg stays.ne']
  exact ⟨_, _, stays, rfl, fits, by omega⟩

/-- A positive mantissa at an exponent of the format rounds to a finite number of
the same sign. -/
theorem round_finite (s : Sign) {m : Nat} (hm : 0 < m) {e : Int} (he : -149 ≤ e) :
    ∃ m' e', ∃ h : 0 < m', UnpackedFloat.round .binary32 s m e = .finite s m' e' h ∧ m' < 2 ^ 24 ∧
      -149 ≤ e' := by
  have least : Format.binary32.minExponent = -149 := by decide
  have target : -149 ≤ Format.binary32.targetExponent (totalExponent m e) := by
    rw [Format.targetExponent, least]
    omega
  unfold UnpackedFloat.round decreaseExponent
  apply roundWithAccuracy_finite
  · rw [Nat.shiftLeft_eq]
    positivity
  · omega

/-! ## Packing keeps zeros apart from the rest -/

theorem pack_infinity_ne_zero (s s' : Sign) :
    pack .binary32 (.infinity s) ≠ packedZero .binary32 s' := by
  cases s <;> cases s' <;> decide

theorem pack_finite_ne_zero (s s' : Sign) {m : Nat} {e : Int} (hm : 0 < m) (fits : m < 2 ^ 24)
    (he : -149 ≤ e) : pack .binary32 (.finite s m e hm) ≠ packedZero .binary32 s' := by
  have bias : Format.binary32.exponentBias = 127 := rfl
  have width : Format.binary32.mantissaBits = 24 := rfl
  unfold pack
  simp only [bias, width]
  split
  · exact pack_infinity_ne_zero s s'
  · rename_i small
    split
    -- a normal number has a positive exponent field
    · intro same
      have field : (e + (127 : Nat) + (23 : Nat)).toNat % 2 ^ 8 = 0 := by
        simpa [packedZero] using congrArg (fun b => (unpackExponent b).toNat) same
      omega
    -- a subnormal number keeps its whole mantissa
    · rename_i subnormal
      intro same
      have short : m < 2 ^ 23 := by
        have digits : m.log2 < 24 := (Nat.log2_lt hm.ne').mpr fits
        exact (Nat.log2_lt hm.ne').mp (by omega)
      have field : m % 2 ^ 23 = 0 := by
        simpa [packedZero] using congrArg (fun b => (unpackMantissa b).toNat) same
      omega

/-! ## Differences -/

theorem ofModel_pack_unpack (u : UnpackedFloat) :
    (Float32.ofModel (.pack u)).toModel.unpack = unpack .binary32 (pack .binary32 u) := rfl

theorem sub_eq (x y : Float32) :
    x - y = .ofModel (.pack (UnpackedFloat.sub .binary32 x.toModel.unpack y.toModel.unpack)) := rfl

/-- The exponent of a finite number is one of the format. -/
theorem unpack_exponent {x : Float32} {s : Sign} {m : Nat} {e : Int} {hm : 0 < m}
    (finite : x.toModel.unpack = .finite s m e hm) : -149 ≤ e := by
  have bias : Format.binary32.exponentBias = 127 := rfl
  unfold Float32.Model.unpack unpack at finite
  simp only [bias] at finite
  split at finite
  · split at finite <;> cases finite
  · split at finite
    · split at finite <;> cases finite
      simp_all
    · cases finite
      rename_i positive
      have field : 0 < (@unpackExponent .binary32 x.toModel.toBits.toBitVec).toNat := by
        exact Nat.pos_of_ne_zero fun zero => positive (BitVec.eq_of_toNat_eq zero)
      omega

/-- A positive number is finite with a positive sign, or infinity. -/
theorem unpack_of_positive {x : Float32} (positive : 0 < x) :
    (∃ m e, ∃ h : 0 < m, x.toModel.unpack = .finite .positive m e h) ∨
      x.toModel.unpack = .infinity .positive := by
  obtain ⟨-, -, above⟩ := (lt_iff_rank 0 x).mp positive
  have zero : rank 0 = toLex (0, toLex (0, 0)) := rfl
  rw [zero, rank] at above
  rcases reading : x.toModel.unpack with (_ | _) | _ | _ | ⟨_ | _, m, e, h⟩ <;>
    simp_all [rankOf, Prod.Lex.toLex_lt_toLex]

theorem sub_ne_notANumber {u v : UnpackedFloat} (hu : u.isFinite = true) (hv : v ≠ .notANumber) :
    UnpackedFloat.sub .binary32 u v ≠ .notANumber := by
  cases u with
  | infinity s => simp [UnpackedFloat.isFinite] at hu
  | notANumber => simp [UnpackedFloat.isFinite] at hu
  | zero s =>
      cases v with
      | notANumber => exact absurd rfl hv
      | zero s' =>
          simp only [UnpackedFloat.sub]
          split <;> simp
      | infinity s' => simp [UnpackedFloat.sub]
      | finite s' m' e' h' => simp [UnpackedFloat.sub]
  | finite s m e h =>
      cases v with
      | notANumber => exact absurd rfl hv
      | zero s' => simp [UnpackedFloat.sub]
      | infinity s' => simp [UnpackedFloat.sub]
      | finite s' m' e' h' => exact normalize_ne_notANumber _ _ _

/-- A finite number less a number is a number. -/
theorem sub_ne_nan {x y : Float32} (hx : x.isFinite = true) (hy : y ≠ .nan) : x - y ≠ .nan := by
  rw [← unpack_ne_notANumber_iff, sub_eq, ofModel_pack_unpack]
  exact unpack_pack_ne_notANumber (sub_ne_notANumber hx ((unpack_ne_notANumber_iff y).mpr hy))

/-! ## Sums -/

theorem add_eq (x y : Float32) :
    x + y = .ofModel (.pack (UnpackedFloat.add .binary32 x.toModel.unpack y.toModel.unpack)) := rfl

theorem add_ne_notANumber {u v : UnpackedFloat} (hu : u.isFinite = true) (hv : v ≠ .notANumber) :
    UnpackedFloat.add .binary32 u v ≠ .notANumber := by
  cases u with
  | infinity s => simp [UnpackedFloat.isFinite] at hu
  | notANumber => simp [UnpackedFloat.isFinite] at hu
  | zero s =>
      cases v with
      | notANumber => exact absurd rfl hv
      | zero s' =>
          simp only [UnpackedFloat.add]
          split <;> simp
      | infinity s' => simp [UnpackedFloat.add]
      | finite s' m' e' h' => simp [UnpackedFloat.add]
  | finite s m e h =>
      cases v with
      | notANumber => exact absurd rfl hv
      | zero s' => simp [UnpackedFloat.add]
      | infinity s' => simp [UnpackedFloat.add]
      | finite s' m' e' h' => exact normalize_ne_notANumber _ _ _

/-- A finite number and a number add to a number. -/
theorem add_ne_nan {x y : Float32} (hx : x.isFinite = true) (hy : y ≠ .nan) : x + y ≠ .nan := by
  rw [← unpack_ne_notANumber_iff, add_eq, ofModel_pack_unpack]
  exact unpack_pack_ne_notANumber (add_ne_notANumber hx ((unpack_ne_notANumber_iff y).mpr hy))

/-! ## Differences that are zero -/

/-- A finite number less itself is positive zero. -/
theorem sub_self_of_finite {x : Float32} (hx : x.isFinite = true) : x - x = 0 := by
  have difference : UnpackedFloat.sub .binary32 x.toModel.unpack x.toModel.unpack =
      .zero .positive := by
    have finite : x.toModel.unpack.isFinite = true := hx
    cases reading : x.toModel.unpack with
    | infinity s => simp [reading, UnpackedFloat.isFinite] at finite
    | notANumber => simp [reading, UnpackedFloat.isFinite] at finite
    | zero s => cases s <;> rfl
    | finite s m e h =>
        simp only [UnpackedFloat.sub, Int.sub_self]
        rfl
  rw [sub_eq, difference]
  rfl

/-- Only an exact zero normalizes to the word of a zero. -/
theorem normalize_of_pack_zero {m e : Int} (he : -149 ≤ e) {s : Sign}
    (packed : pack .binary32 (UnpackedFloat.normalize .binary32 m e .positive) =
      packedZero .binary32 s) :
    UnpackedFloat.normalize .binary32 m e .positive = .zero .positive := by
  unfold UnpackedFloat.normalize at packed ⊢
  cases order : compare m 0 with
  | eq => rfl
  | lt =>
      have negative : 0 < (-m).toNat := by
        have below := compare_lt_iff_lt.mp order
        omega
      obtain ⟨m', e', h, rounded, fits, least⟩ := round_finite .negative negative he
      rw [order] at packed
      simp only [rounded] at packed
      exact absurd packed (pack_finite_ne_zero _ _ h fits least)
  | gt =>
      have positive : 0 < m.toNat := by
        have above := compare_gt_iff_gt.mp order
        omega
      obtain ⟨m', e', h, rounded, fits, least⟩ := round_finite .positive positive he
      rw [order] at packed
      simp only [rounded] at packed
      exact absurd packed (pack_finite_ne_zero _ _ h fits least)

theorem unpack_of_rank_zero {z : Float32} (number : z ≠ .nan) (atZero : rank z = rank 0) :
    ∃ s, z.toModel.unpack = .zero s := by
  have zero : rank 0 = toLex (0, toLex (0, 0)) := rfl
  rw [zero, rank] at atZero
  have known := (unpack_ne_notANumber_iff z).mpr number
  rcases reading : z.toModel.unpack with (_ | _) | _ | s | ⟨_ | _, m, e, h⟩ <;>
    simp_all [rankOf]

/-- A difference of positive numbers that lies at zero is positive zero. -/
theorem sub_eq_zero_of_positive {x y : Float32} (hx : 0 < x) (finite : x.isFinite = true) (hy : 0 < y)
    (notBelow : ¬ x - y < 0) (notAbove : x - y ≤ 0) : x - y = 0 := by
  have number : x - y ≠ .nan := ne_nan_of_le_left notAbove
  have atZero : rank (x - y) = rank 0 := by
    apply le_antisymm ((le_iff_rank _ _).mp notAbove).2.2
    exact ((le_iff_rank _ _).mp (le_of_not_less number zero_ne_nan notBelow)).2.2
  obtain ⟨s, reading⟩ := unpack_of_rank_zero number atZero
  rw [sub_eq, ofModel_pack_unpack, unpack_eq_zero_iff_of_valid valid_pack] at reading
  obtain ⟨m, e, h, hu⟩ : ∃ m e, ∃ h : 0 < m, x.toModel.unpack = .finite .positive m e h := by
    rcases unpack_of_positive hx with found | infinite
    · exact found
    · have unbounded : x.toModel.unpack.isFinite = true := finite
      simp [infinite, UnpackedFloat.isFinite] at unbounded
  rcases unpack_of_positive hy with ⟨m', e', h', hv⟩ | hv
  · have least : -149 ≤ min e e' := le_min (unpack_exponent hu) (unpack_exponent hv)
    rw [sub_eq]
    rw [hu, hv] at reading ⊢
    have atZero := normalize_of_pack_zero least reading
    simp only [UnpackedFloat.sub]
    exact congrArg (fun u => Float32.ofModel (.pack u)) atZero
  · rw [hu, hv] at reading
    exact absurd reading (pack_infinity_ne_zero _ s)

end RobotCombat.Number
