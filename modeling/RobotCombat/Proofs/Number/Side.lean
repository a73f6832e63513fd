/-
# RobotCombat.Proofs.Number.Side — on which side of zero products and differences lie

Every operation first fixes the sign of its result and then rounds, and rounding and
packing keep that sign or give zero. `OnSide` says of an unpacked number that it carries
a sign, is a zero or no number at all. From it follow

* `mul_not_positive`: what is not above zero times what is not below zero is not above zero;
* `zero_sub_not_positive`: zero less a number above zero is not above zero;
* `one_sub_not_negative`: one less a number that is not above one is not below zero;
* `armorReduced_not_positive`: armor lets nothing through of damage that is not positive.
-/
import RobotCombat.Fighter.Loadout
import RobotCombat.Proofs.Number.Difference

namespace RobotCombat.Number

set_option autoImplicit false

open Float.Model (Format UnpackedFloat totalExponent)
open Float.Model.UnpackedFloat

/-- A number with a sign, a zero, or no number. -/
def OnSide (s : Sign) : UnpackedFloat → Prop
  | .finite s' _ _ _ => s' = s
  | .infinity s' => s' = s
  | .zero _ => True
  | .notANumber => True

theorem onSide_negative_iff (x : Float32) : OnSide .negative x.toModel.unpack ↔ ¬ 0 < x := by
  have zero : rank 0 = toLex (0, toLex (0, 0)) := rfl
  have missing := unpack_ne_notANumber_iff x
  rw [lt_iff_rank, zero, rank]
  rcases reading : x.toModel.unpack with (_ | _) | _ | _ | ⟨_ | _, m, e, h⟩ <;>
    simp_all [OnSide, rankOf, Prod.Lex.toLex_lt_toLex, zero_ne_nan]

theorem onSide_positive_iff (x : Float32) : OnSide .positive x.toModel.unpack ↔ ¬ x < 0 := by
  have zero : rank 0 = toLex (0, toLex (0, 0)) := rfl
  have missing := unpack_ne_notANumber_iff x
  rw [lt_iff_rank, zero, rank]
  rcases reading : x.toModel.unpack with (_ | _) | _ | _ | ⟨_ | _, m, e, h⟩ <;>
    simp_all [OnSide, rankOf, Prod.Lex.toLex_lt_toLex, zero_ne_nan]

/-! ## Rounding and packing keep the side -/

theorem onSide_roundWithAccuracy (s : Sign) (m : Nat) (e : Int) (a : Accuracy) :
    OnSide s (roundWithAccuracy .binary32 s m e a) := by
  unfold roundWithAccuracy
  dsimp only
  split
  · trivial
  · rfl

theorem onSide_round (s : Sign) (m : Nat) (e : Int) :
    OnSide s (UnpackedFloat.round .binary32 s m e) :=
  onSide_roundWithAccuracy s _ _ _

/-- A word with a sign unpacks to a number on that side. -/
theorem onSide_unpack {s : Sign} {word : BitVec Format.binary32.numBits}
    (sign : unpackSign word = s.toBitVec) : OnSide s (unpack .binary32 word) := by
  unfold unpack
  simp only [sign, Sign.ofBitVec_toBitVec]
  split
  · split <;> simp [OnSide]
  · split
    · split <;> simp [OnSide]
    · rfl

theorem onSide_pack {s : Sign} {u : UnpackedFloat} (side : OnSide s u) :
    OnSide s (unpack .binary32 (pack .binary32 u)) := by
  cases u with
  | notANumber =>
      rw [(unpack_eq_notANumber_iff_of_valid valid_pack).mpr rfl]
      trivial
  | zero s' =>
      rw [(unpack_eq_zero_iff_of_valid valid_pack).mpr rfl]
      trivial
  | infinity s' =>
      obtain rfl : s' = s := side
      exact onSide_unpack (unpackSign_packComponents _ _ _)
  | finite s' m e h =>
      obtain rfl : s' = s := side
      apply onSide_unpack
      unfold pack
      dsimp only
      split
      · exact unpackSign_packComponents _ _ _
      · split <;> exact unpackSign_packComponents _ _ _

/-! ## Products -/

theorem onSide_mul {u v : UnpackedFloat} (hu : OnSide .negative u) (hv : OnSide .positive v) :
    OnSide .negative (UnpackedFloat.mul .binary32 u v) := by
  rcases u with s | _ | s | ⟨s, m, e, h⟩ <;> rcases v with s' | _ | s' | ⟨s', m', e', h'⟩ <;>
    first
    | trivial
    | (obtain rfl : s = .negative := hu
       obtain rfl : s' = .positive := hv
       first
       | rfl
       | exact onSide_roundWithAccuracy .negative _ _ _)

theorem mul_eq (x y : Float32) :
    x * y = .ofModel (.pack (UnpackedFloat.mul .binary32 x.toModel.unpack y.toModel.unpack)) := rfl

/-- What is not above zero times what is not below zero is not above zero. -/
theorem mul_not_positive {x y : Float32} (hx : ¬ 0 < x) (hy : ¬ y < 0) : ¬ 0 < x * y := by
  rw [← onSide_negative_iff, mul_eq, ofModel_pack_unpack]
  exact onSide_pack (onSide_mul ((onSide_negative_iff x).mpr hx) ((onSide_positive_iff y).mpr hy))

/-! ## Differences from zero and from one -/

theorem unpack_zero : (0 : Float32).toModel.unpack = .zero .positive := rfl

/-- Zero less a number above zero is not above zero. -/
theorem zero_sub_not_positive {x : Float32} (hx : 0 < x) : ¬ 0 < 0 - x := by
  rw [← onSide_negative_iff, sub_eq, ofModel_pack_unpack, unpack_zero]
  apply onSide_pack
  rcases unpack_of_positive hx with ⟨m, e, h, reading⟩ | reading <;>
    rw [reading] <;> rfl

theorem unpack_one :
    (1 : Float32).toModel.unpack = .finite .positive (2 ^ 23) (-23) (by decide) := rfl

/-- A mantissa has no more digits than the format. -/
theorem unpack_mantissa {x : Float32} {s : Sign} {m : Nat} {e : Int} {hm : 0 < m}
    (finite : x.toModel.unpack = .finite s m e hm) : m < 2 ^ 24 := by
  unfold Float32.Model.unpack unpack at finite
  simp only at finite
  split at finite
  · split at finite <;> cases finite
  · split at finite
    · split at finite
      · cases finite
      · cases finite
        have digits : (@unpackMantissa .binary32 x.toModel.toBits.toBitVec).toNat < 2 ^ 23 :=
          BitVec.isLt _
        omega
    · cases finite
      exact BitVec.isLt _

theorem onSide_normalize {m : Int} (nonneg : 0 ≤ m) (e : Int) :
    OnSide .positive (UnpackedFloat.normalize .binary32 m e .positive) := by
  unfold UnpackedFloat.normalize
  split
  · rename_i below
    have negative := compare_lt_iff_lt.mp below
    omega
  · trivial
  · exact onSide_round _ _ _

/-- A number that is not above one, in terms of exponent and mantissa. -/
theorem not_above_one {x : Float32} {m : Nat} {e : Int} {h : 0 < m} (hx : ¬ 1 < x)
    (reading : x.toModel.unpack = .finite .positive m e h) :
    e < -23 ∨ e = -23 ∧ m ≤ 2 ^ 23 := by
  have number : x ≠ .nan := (unpack_ne_notANumber_iff x).mp (by simp [reading])
  have below := ((le_iff_rank x 1).mp (le_of_not_less (by decide) number hx)).2.2
  rw [rank, rank, reading, unpack_one] at below
  simp only [rankOf, Prod.Lex.toLex_le_toLex, lt_self_iff_false, true_and, false_or] at below
  omega

/-- At the common exponent one has the larger mantissa. -/
theorem shifted_le_one {m : Nat} {e : Int} (digits : m < 2 ^ 24)
    (order : e < -23 ∨ e = -23 ∧ m ≤ 2 ^ 23) :
    m <<< (e - min (-23) e).toNat ≤ 2 ^ 23 <<< (-23 - min (-23) e).toNat := by
  rcases order with below | ⟨rfl, small⟩
  · obtain ⟨n, shift⟩ : ∃ n, (-23 - min (-23) e).toNat = n + 1 :=
      ⟨(-23 - min (-23) e).toNat - 1, by omega⟩
    have unmoved : (e - min (-23) e).toNat = 0 := by omega
    have grown : 1 ≤ 2 ^ n := Nat.one_le_two_pow
    rw [shift, unmoved, Nat.shiftLeft_eq, Nat.shiftLeft_eq, pow_succ]
    omega
  · rw [min_self, Int.sub_self]
    exact small

/-- One less a number that is not above one is not below zero. -/
theorem one_sub_not_negative {x : Float32} (hx : ¬ 1 < x) : ¬ 1 - x < 0 := by
  rw [← onSide_positive_iff, sub_eq, ofModel_pack_unpack]
  apply onSide_pack
  rw [unpack_one]
  rcases reading : x.toModel.unpack with (_ | _) | _ | s | ⟨_ | _, m, e, h⟩
  · rfl
  · have above : 1 < x := by
      have number := (unpack_ne_notANumber_iff x).mp (by simp [reading])
      refine (lt_iff_rank 1 x).mpr ⟨by decide, number, ?_⟩
      rw [rank, rank, reading, unpack_one]
      simp [rankOf, Prod.Lex.toLex_lt_toLex]
    exact absurd above hx
  · trivial
  · rfl
  · simp only [UnpackedFloat.sub, decreaseExponent, Sign.apply]
    apply onSide_normalize
    rw [sub_neg_eq_add]
    positivity
  · simp only [UnpackedFloat.sub, decreaseExponent, Sign.apply]
    apply onSide_normalize
    have larger := shifted_le_one (unpack_mantissa reading) (not_above_one hx reading)
    omega

/-- The larger of a number and zero is zero if it is not above zero. -/
theorem larger_eq_zero {x : Float32} (hx : ¬ 0 < x) : larger x 0 = 0 := by
  unfold larger
  rw [if_neg (by decide), if_neg hx]

theorem clamp_not_above_one (x : Float32) : ¬ 1 < clamp x 0 1 := by
  unfold clamp
  split
  · decide
  · split
    · decide
    · assumption

end RobotCombat.Number

namespace RobotCombat

open Number

/-- Armor leaves nothing of damage that is not above zero. -/
theorem armorReduced_eq_zero {raw : Float32} (harmless : ¬ 0 < raw) (reduction : Float32) :
    armorReduced raw reduction = 0 := by
  have kept : ¬ 1 - clamp reduction 0 1 < 0 := one_sub_not_negative (clamp_not_above_one reduction)
  have product : ¬ 0 < raw * (1 - clamp reduction 0 1) := mul_not_positive harmless kept
  rw [armorReduced, larger_eq_zero product]

/-- Armor lets nothing through of damage that is not positive. -/
theorem armorReduced_not_positive {raw : Float32} (harmless : raw ≤ 0) (reduction : Float32) :
    armorReduced raw reduction ≤ 0 := by
  rw [armorReduced_eq_zero fun positive => not_le_of_less positive harmless]
  exact self_le zero_ne_nan

end RobotCombat
