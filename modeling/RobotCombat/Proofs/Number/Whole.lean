/-
# RobotCombat.Proofs.Number.Whole — whole numbers are taken in order

A number is made whole in two steps that both go through its reading: it is rounded
(`roundAway`) and then counted (`toNatUpTo`). A word reads as it unpacks (`reading_eq`), and
whole numbers up to `2 ^ 24`, which is all that rounding ever writes anew, are written exactly
(`toNatUpTo_ofNat`). So nothing is lost between the two steps.

* `toNatUpTo_roundAway`: the count of a positive number is its height, rounded to whole units;
* `toNatUpTo_roundAway_mono`: what is not below another number is not counted below it, where
  numbers below zero count as zero.
-/
import RobotCombat.Proofs.Number.Rounding
import RobotCombat.Proofs.Number.Words

namespace RobotCombat.Number

set_option autoImplicit false

open Float.Model (UnpackedFloat)
open Float.Model.UnpackedFloat

/-! ## A word reads as it unpacks -/

/-- What an unpacked number reads as. -/
def readingOf : UnpackedFloat → Reading
  | .infinity s => .infinite (s == .negative)
  | .finite s m e _ => .finite (s == .negative) m e
  | .zero s => .finite (s == .negative) 0 (-149)
  | .notANumber => .notANumber

theorem sign_of_word (word : BitVec 32) :
    (Sign.ofBitVec (@unpackSign .binary32 word) == .negative) = decide (2 ^ 31 ≤ word.toNat) := by
  have bit : (@unpackSign .binary32 word).toNat = word.toNat / 2 ^ 31 % 2 := by
    rw [unpackSign_def, BitVec.extractLsb'_toNat, Nat.shiftRight_eq_div_pow]
    rfl
  have bound := word.isLt
  unfold Sign.ofBitVec
  by_cases high : 2 ^ 31 ≤ word.toNat
  · have other : @unpackSign .binary32 word ≠ 0#1 := by
      intro zero
      rw [zero, BitVec.toNat_zero] at bit
      omega
    rw [if_neg other, decide_eq_true high]
    rfl
  · have same : @unpackSign .binary32 word = 0#1 := by
      apply BitVec.eq_of_toNat_eq
      rw [bit, BitVec.toNat_zero]
      omega
    rw [if_pos same, decide_eq_false high]
    rfl

/-- A word reads as the number that it unpacks to. -/
theorem decode_eq (word : BitVec 32) :
    single.decode word.toNat = readingOf (unpack .binary32 word) := by
  have exponent : (@unpackExponent .binary32 word).toNat = word.toNat / 2 ^ 23 % 2 ^ 8 :=
    toNat_unpackExponent _
  have mantissa : (@unpackMantissa .binary32 word).toNat = word.toNat % 2 ^ 23 :=
    toNat_unpackMantissa _
  have sign : (Sign.ofBitVec (@unpackSign .binary32 word) == .negative) =
      decide (2147483648 ≤ word.toNat) := sign_of_word word
  have leading : (1#1 ++ (@unpackMantissa .binary32 word)).toNat =
      8388608 + word.toNat % 2 ^ 23 := by
    rw [BitVec.toNat_append, ← Nat.shiftLeft_add_eq_or_of_lt (BitVec.isLt _), mantissa]
    rfl
  have bias : Float.Model.Format.binary32.exponentBias = 127 := rfl
  have infinity : single.infinityWord = 2139095040 := rfl
  have signWord : single.signWord = 2147483648 := rfl
  have fraction : Nat.pow 2 single.fractionBits = 8388608 := rfl
  have least : single.minExponent = -149 := rfl
  unfold Format.decode unpack
  simp only [bias, infinity, signWord, fraction, least]
  rw [← sign]
  -- the cases of unpacking, by the two fields of the word
  by_cases ones : @unpackExponent .binary32 word = -1#8
  · have full : (@unpackExponent .binary32 word).toNat = 255 := by rw [ones]; rfl
    rw [if_pos ones]
    by_cases none : @unpackMantissa .binary32 word = 0#23
    · have zero : (@unpackMantissa .binary32 word).toNat = 0 := by rw [none]; rfl
      rw [if_pos none, if_neg (by omega), if_pos (by omega)]
      rfl
    · have some : (@unpackMantissa .binary32 word).toNat ≠ 0 :=
        fun zero => none (BitVec.eq_of_toNat_eq zero)
      rw [if_neg none, if_pos (by omega)]
      rfl
  · have bounded : (@unpackExponent .binary32 word).toNat ≠ 255 :=
      fun full => ones (BitVec.eq_of_toNat_eq full)
    rw [if_neg ones, if_neg (by omega), if_neg (by omega)]
    by_cases low : @unpackExponent .binary32 word = 0#8
    · have zero : (@unpackExponent .binary32 word).toNat = 0 := by rw [low]; rfl
      have same : word.toNat % 2147483648 % 8388608 = (@unpackMantissa .binary32 word).toNat := by
        omega
      rw [if_pos low, if_pos (by omega), same]
      by_cases none : @unpackMantissa .binary32 word = 0#23
      · rw [dif_pos none, none]
        rfl
      · rw [dif_neg none, zero]
        rfl
    · have some : (@unpackExponent .binary32 word).toNat ≠ 0 :=
        fun zero => low (BitVec.eq_of_toNat_eq zero)
      rw [if_neg low, if_neg (by omega)]
      simp only [readingOf, Reading.finite.injEq, true_and]
      omega

theorem reading_eq (x : Float32) : reading x = readingOf x.toModel.unpack :=
  decode_eq x.toModel.toBits.toBitVec

/-! ## Whole numbers are written exactly -/

/-- The word of a number is kept, and so is infinity. -/
theorem toNat_toBits_ofWord {magnitude : Nat} (below : magnitude ≤ single.infinityWord) :
    (ofWord false magnitude).toBits.toNat = magnitude := by
  have infinity : single.infinityWord = 2139095040 := rfl
  have word : (UInt32.ofNat magnitude).toBitVec.toNat = magnitude := by
    rw [UInt32.toNat_toBitVec, UInt32.toNat_ofNat', Nat.mod_eq_of_lt (by omega)]
  have valid : Float.Model.Format.binary32.Valid (UInt32.ofNat magnitude).toBitVec := by
    constructor
    intro ones some
    have missing := (unpack_eq_notANumber_iff_fields _).mpr ⟨ones, some⟩
    rw [unpack_eq_notANumber_iff, word] at missing
    have above : 2139095040 < magnitude % 2 ^ 31 := missing
    omega
  have kept := congrArg BitVec.toNat (pack_unpack_of_valid valid)
  rw [word] at kept
  exact kept

section Short

variable {k : Nat}

/-- Zeros behind a whole number of at most twenty-four digits give it a full mantissa. -/
theorem filled_mantissa (positive : 0 < k) (short : k < 2 ^ 24) :
    8388608 ≤ k * 2 ^ (23 - k.log2) ∧ k * 2 ^ (23 - k.log2) < 16777216 := by
  have digits : k.log2 < 24 := (Nat.log2_lt positive.ne').mpr short
  constructor
  · calc 8388608 = 2 ^ k.log2 * 2 ^ (23 - k.log2) := by
          rw [← pow_add, Nat.add_sub_of_le (by omega)]
          rfl
      _ ≤ k * 2 ^ (23 - k.log2) := Nat.mul_le_mul_right _ (Nat.log2_self_le positive.ne')
  · calc k * 2 ^ (23 - k.log2) < 2 ^ (k.log2 + 1) * 2 ^ (23 - k.log2) :=
          Nat.mul_lt_mul_of_pos_right Nat.lt_log2_self (Nat.two_pow_pos _)
      _ = 16777216 := by
          rw [← pow_add, show k.log2 + 1 + (23 - k.log2) = 24 by omega]
          rfl

theorem exponentOf_short (positive : 0 < k) (short : k < 2 ^ 24) :
    single.exponentOf k 1 = (k.log2 : Int) - 23 := by
  have fraction : Nat.pow 2 single.fractionBits = 8388608 := rfl
  have least : single.minExponent = -149 := rfl
  have digits : k.log2 < 24 := (Nat.log2_lt positive.ne').mpr short
  have up : ((k.log2 : Int) - 23).toNat = 0 := by omega
  have down : (-((k.log2 : Int) - 23)).toNat = 23 - k.log2 := by omega
  have guess : (k.log2 : Int) - (Nat.log2 1 : Nat) - (single.fractionBits : Nat) = k.log2 - 23 := by
    show (k.log2 : Int) - 0 - 23 = k.log2 - 23
    omega
  have full := (filled_mantissa positive short).1
  unfold Format.exponentOf
  simp only [guess, up, down, fraction, least, Nat.pow_eq, pow_zero, mul_one]
  rw [if_neg (not_lt.mpr full), max_eq_left (by omega)]

theorem nearest_short (positive : 0 < k) (short : k < 2 ^ 24) :
    single.nearest k 1 = k * 2 ^ (23 - k.log2) + (k.log2 + 126) * 8388608 := by
  have infinity : single.infinityWord = 2139095040 := rfl
  have fraction : Nat.pow 2 single.fractionBits = 8388608 := rfl
  have least : single.minExponent = -149 := rfl
  have digits : k.log2 < 24 := (Nat.log2_lt positive.ne').mpr short
  have up : ((k.log2 : Int) - 23).toNat = 0 := by omega
  have down : (-((k.log2 : Int) - 23)).toNat = 23 - k.log2 := by omega
  have full := (filled_mantissa positive short).2
  unfold Format.nearest
  simp only [exponentOf_short positive short, up, down, fraction, least, Nat.pow_eq, pow_zero,
    mul_one, roundHalfEven_one]
  rw [if_neg positive.ne', infinity, min_eq_left (by omega)]
  congr 2
  omega

/-- Up to twenty-four digits the nearest number is the whole number itself. -/
theorem decode_nearest (positive : 0 < k) (short : k < 2 ^ 24) :
    single.decode (single.nearest k 1) =
      .finite false (k * 2 ^ (23 - k.log2)) ((k.log2 : Int) - 23) := by
  have infinity : single.infinityWord = 2139095040 := rfl
  have signWord : single.signWord = 2147483648 := rfl
  have fraction : Nat.pow 2 single.fractionBits = 8388608 := rfl
  have least : single.minExponent = -149 := rfl
  have digits : k.log2 < 24 := (Nat.log2_lt positive.ne').mpr short
  obtain ⟨low, high⟩ := filled_mantissa positive short
  rw [nearest_short positive short]
  generalize k * 2 ^ (23 - k.log2) = mantissa at low high ⊢
  have magnitude_eq : (mantissa + (k.log2 + 126) * 8388608) % 2147483648 =
      mantissa + (k.log2 + 126) * 8388608 := Nat.mod_eq_of_lt (by omega)
  have field : (mantissa + (k.log2 + 126) * 8388608) / 8388608 = k.log2 + 127 := by omega
  have rest : (mantissa + (k.log2 + 126) * 8388608) % 8388608 = mantissa - 8388608 := by omega
  unfold Format.decode
  simp only [signWord, fraction, least, infinity, magnitude_eq, field, rest]
  rw [if_neg (by omega), if_neg (by omega), if_neg (by omega), decide_eq_false (by omega)]
  simp only [Reading.finite.injEq, true_and]
  omega

/-- Counting gives back a whole number that was written exactly. -/
theorem toNatUpTo_ofNat (limit : Nat) (short : k ≤ 2 ^ 24) :
    toNatUpTo limit (Number.ofNat k) = min limit k := by
  have read : reading (Number.ofNat k) = single.decode (single.nearest k 1) :=
    congrArg single.decode (toNat_toBits_ofWord (nearest_le_infinityWord single k 1))
  unfold toNatUpTo
  rw [read]
  rcases short.lt_or_eq with less | rfl
  · rcases k.eq_zero_or_pos with rfl | positive
    · rfl
    · have up : ((k.log2 : Int) - 23).toNat = 0 := by
        have digits : k.log2 < 24 := (Nat.log2_lt positive.ne').mpr less
        omega
      have down : (-((k.log2 : Int) - 23)).toNat = 23 - k.log2 := by omega
      rw [decode_nearest positive less]
      simp only [up, down, Nat.pow_eq, pow_zero, mul_one, Bool.false_eq_true, if_false]
      rw [Nat.mul_div_cancel _ (Nat.two_pow_pos _)]
  · rfl

end Short

/-! ## Halves going up -/

theorem roundHalfUp_one (k : Nat) : roundHalfUp k 1 = k := by
  unfold roundHalfUp
  omega

theorem roundHalfUp_mono {a b : Nat} (h : a ≤ b) (den : Nat) :
    roundHalfUp a den ≤ roundHalfUp b den :=
  Nat.div_le_div_right (by omega)

theorem roundHalfUp_scale (num den : Nat) {c : Nat} (positive : 0 < c) :
    roundHalfUp (num * c) (den * c) = roundHalfUp num den := by
  unfold roundHalfUp
  rw [← Nat.mul_assoc, ← Nat.mul_assoc, ← Nat.add_mul, Nat.mul_div_mul_right _ _ positive]

/-- The nearest whole number is that of the height. -/
theorem wholeUp_eq (m : Nat) {e : Int} (least : -149 ≤ e) :
    wholeUp m e = roundHalfUp (magnitude m e) (2 ^ 149) := by
  have numerator : magnitude m e = m * 2 ^ e.toNat * 2 ^ (149 - (-e).toNat) := by
    have exponent : (e + 149).toNat = e.toNat + (149 - (-e).toNat) := by omega
    unfold magnitude
    rw [exponent, pow_add, Nat.mul_assoc]
  have denominator : 2 ^ 149 = 2 ^ (-e).toNat * 2 ^ (149 - (-e).toNat) := by
    rw [← pow_add]
    congr 1
    omega
  rw [numerator, denominator, roundHalfUp_scale _ _ (Nat.two_pow_pos _)]
  rfl

/-- A number with places behind the point rounds to one that is written exactly. -/
theorem wholeUp_le {m : Nat} (short : m < 2 ^ 24) {e : Int} (below : e < 0) :
    wholeUp m e ≤ 2 ^ 24 := by
  have up : e.toNat = 0 := by omega
  have unit : 0 < 2 ^ (-e).toNat := Nat.two_pow_pos _
  show (2 * (m * 2 ^ e.toNat) + 2 ^ (-e).toNat) / (2 * 2 ^ (-e).toNat) ≤ 2 ^ 24
  rw [up]
  generalize 2 ^ (-e).toNat = u at unit
  apply Nat.div_le_of_le_mul
  omega

/-! ## Counts -/

section Counts

variable {limit : Nat} {x y : Float32}

theorem toNatUpTo_roundAway_of_finite (limit : Nat) {m : Nat} {e : Int}
    (read : reading x = .finite false m e) (short : m < 2 ^ 24) :
    toNatUpTo limit (roundAway x) = min limit (wholeUp m e) := by
  unfold roundAway
  simp only [read]
  by_cases whole : 0 ≤ e
  · have down : (-e).toNat = 0 := by omega
    have same : wholeUp m e = m * Nat.pow 2 e.toNat := by
      unfold wholeUp
      rw [down]
      exact roundHalfUp_one _
    rw [if_pos whole, same]
    unfold toNatUpTo
    simp only [read, down, Nat.pow_eq, pow_zero, Nat.div_one, Bool.false_eq_true, if_false]
  · rw [if_neg whole]
    exact toNatUpTo_ofNat limit (wholeUp_le short (not_le.mp whole))

/-- The count of a positive number is its height in whole units, as far as the limit. -/
theorem toNatUpTo_roundAway (limited : limit ≤ 2 ^ 128) (positive : 0 < x) :
    toNatUpTo limit (roundAway x) = min limit (roundHalfUp (height x).toNat (2 ^ 149)) := by
  rcases unpack_of_positive positive with ⟨m, e, h, unpacked⟩ | unpacked
  · have read : reading x = .finite false m e := by rw [reading_eq, unpacked]; rfl
    have level : (height x).toNat = magnitude m e := by rw [height, unpacked]; rfl
    have inside := inFormat x
    rw [unpacked] at inside
    rw [toNatUpTo_roundAway_of_finite limit read inside.1.digits, level,
      wholeUp_eq m inside.1.least]
  · have read : reading x = .infinite false := by rw [reading_eq, unpacked]; rfl
    have level : (height x).toNat = peak := by rw [height, unpacked]; rfl
    have top : roundHalfUp peak (2 ^ 149) = 2 ^ 128 := by decide
    have kept : roundAway x = x := by
      unfold roundAway
      rw [read]
    rw [kept, level, top, min_eq_left limited]
    unfold toNatUpTo
    rw [read]
    rfl

theorem larger_of_positive (positive : 0 < x) : larger x 0 = x := by
  unfold larger
  rw [if_neg (by decide), if_pos positive]

/-- Numbers are counted in order, those below zero as zero. -/
theorem toNatUpTo_roundAway_mono (limited : limit ≤ 2 ^ 128) (h : x ≤ y) :
    toNatUpTo limit (roundAway (larger x 0)) ≤ toNatUpTo limit (roundAway (larger y 0)) := by
  by_cases positive : 0 < x
  · have beyond : 0 < y := by
      apply less_of_not_le (ne_nan_of_le_right h) zero_ne_nan
      intro below
      exact not_le_of_less positive (le_of_le_of_le h below)
    have higher : (height x).toNat ≤ (height y).toNat :=
      Int.toNat_le_toNat ((le_iff_height x y).mp h).2.2
    rw [larger_of_positive positive, larger_of_positive beyond,
      toNatUpTo_roundAway limited positive, toNatUpTo_roundAway limited beyond]
    exact min_le_min_left _ (roundHalfUp_mono higher _)
  · rw [larger_eq_zero positive]
    exact (Nat.min_le_right _ _).trans (Nat.zero_le _)

end Counts

end RobotCombat.Number
