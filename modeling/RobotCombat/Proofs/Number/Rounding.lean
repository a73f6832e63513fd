/-
# RobotCombat.Proofs.Number.Rounding — sums are rounded in order

A sum is the exact sum of two heights, rounded to twenty-four digits and held against infinity
(`height_add`). Rounding keeps the leading digits of a whole number, a half going to the even
neighbour (`rounded`), and does so in order (`rounded_mono`): at one number of lost digits since
the nearest whole number does, and across numbers of digits since a power of two lies between.
So

* `add_mono_left`: a finite number added keeps the order;
* `add_mono_right`: of two finite numbers added the larger one gives the larger sum.
-/
import RobotCombat.Proofs.Number.Height

namespace RobotCombat.Number

set_option autoImplicit false

open Float.Model (Format UnpackedFloat totalExponent)
open Float.Model.UnpackedFloat

/-! ## The nearest whole number -/

theorem roundHalfEven_bounds (num den : Nat) :
    num / den ≤ roundHalfEven num den ∧ roundHalfEven num den ≤ num / den + 1 := by
  unfold roundHalfEven
  dsimp only
  split_ifs <;> omega

theorem roundHalfEven_mono {a b : Nat} (h : a ≤ b) (den : Nat) :
    roundHalfEven a den ≤ roundHalfEven b den := by
  have quotients : a / den ≤ b / den := Nat.div_le_div_right h
  have first := Nat.div_add_mod a den
  have second := Nat.div_add_mod b den
  rcases quotients.lt_or_eq with less | same
  · exact (roundHalfEven_bounds a den).2.trans (less.trans_le (roundHalfEven_bounds b den).1)
  · have rests : a % den ≤ b % den := by
      rw [same] at first
      omega
    unfold roundHalfEven
    dsimp only
    rw [same]
    split_ifs <;> omega

theorem roundHalfEven_scale (num den : Nat) {c : Nat} (positive : 0 < c) :
    roundHalfEven (num * c) (den * c) = roundHalfEven num den := by
  have rest : 2 * (num * c % (den * c)) = 2 * (num % den) * c := by
    rw [Nat.mul_mod_mul_right, Nat.mul_assoc]
  unfold roundHalfEven
  dsimp only
  rw [rest, Nat.mul_div_mul_right _ _ positive]
  simp only [Nat.mul_lt_mul_right positive]

theorem roundHalfEven_one (num : Nat) : roundHalfEven num 1 = num := by
  unfold roundHalfEven
  dsimp only
  rw [Nat.mod_one, if_pos (by decide), Nat.div_one]

/-- Of an exact multiple nothing is lost. -/
theorem roundHalfEven_mul (num : Nat) {c : Nat} (positive : 0 < c) :
    roundHalfEven (num * c) c = num := by
  have scaled := roundHalfEven_scale num 1 positive
  rw [Nat.one_mul, roundHalfEven_one] at scaled
  exact scaled

/-- The digits that were shifted out decide about rounding: the first of them is half of the
last one kept, and the others tell whether something is left besides. -/
theorem shiftRight_eq (m n : Nat) :
    ExtendedMantissa.ofMantissaAndAccuracy m .exact >>> n =
      ⟨m / 2 ^ n, decide (2 ^ n ≤ 2 * (m % 2 ^ n)), decide (2 * (m % 2 ^ n) % 2 ^ n ≠ 0)⟩ := by
  induction n with
  | zero => simp [Nat.mod_one]; rfl
  | succ n ih =>
      have step : ExtendedMantissa.ofMantissaAndAccuracy m .exact >>> (n + 1) =
        (ExtendedMantissa.ofMantissaAndAccuracy m .exact >>> n).shiftRightOne := rfl
      have small : m % 2 ^ n < 2 ^ n := Nat.mod_lt _ (Nat.two_pow_pos n)
      have digits : m % 2 ^ (n + 1) = m % 2 ^ n + 2 ^ n * (m / 2 ^ n % 2) := by
        rw [pow_succ, Nat.mod_mul]
      have doubled : 2 * (m % 2 ^ (n + 1)) % 2 ^ (n + 1) = 2 * (m % 2 ^ n) := by
        rw [pow_succ, Nat.mul_comm _ 2, Nat.mul_mod_mul_left, Nat.mod_mul_left_mod]
      rw [step, ih, doubled, digits]
      unfold ExtendedMantissa.shiftRightOne
      congr 1
      · rw [Nat.div_div_eq_div_mul, pow_succ]
      · rcases Nat.mod_two_eq_zero_or_one (m / 2 ^ n) with even | odd
        · simp [even, pow_succ]
          omega
        · simp [odd, pow_succ]
          omega
      · by_cases low : 2 * (m % 2 ^ n) < 2 ^ n
        · simp [Nat.mod_eq_of_lt low, low]
        · simp [not_lt.mp low]
          omega

theorem roundedMantissa_shiftRight (m n : Nat) :
    (ExtendedMantissa.ofMantissaAndAccuracy m .exact >>> n).roundedMantissa =
      roundHalfEven m (2 ^ n) := by
  have positive : 0 < 2 ^ n := Nat.two_pow_pos n
  have small : m % 2 ^ n < 2 ^ n := Nat.mod_lt _ positive
  rw [shiftRight_eq]
  unfold roundHalfEven
  dsimp only
  by_cases low : 2 * (m % 2 ^ n) < 2 ^ n
  · rw [if_pos low, decide_eq_false (not_le.mpr low)]
    cases decide (2 * (m % 2 ^ n) % 2 ^ n ≠ 0) <;> rfl
  · rw [if_neg low, decide_eq_true (not_lt.mp low)]
    have rest : 2 * (m % 2 ^ n) % 2 ^ n = 2 * (m % 2 ^ n) - 2 ^ n := by
      rw [Nat.mod_eq_sub_mod (not_lt.mp low), Nat.mod_eq_of_lt (by omega)]
    by_cases high : 2 ^ n < 2 * (m % 2 ^ n)
    · rw [if_pos high, rest, decide_eq_true (by omega)]
      rfl
    · rw [if_neg high, rest, decide_eq_false (by omega)]
      show m / 2 ^ n + m / 2 ^ n % 2 = _
      split_ifs <;> omega

/-! ## Twenty-four digits -/

/-- The digits that a whole number loses, all but the leading twenty-four. -/
def excess (k : Nat) : Nat := k.log2 - 23

/-- A whole number rounded to twenty-four digits. -/
def rounded (k : Nat) : Nat := roundHalfEven k (2 ^ excess k) * 2 ^ excess k

theorem log2_mul_two_pow {m : Nat} (hm : 0 < m) (c : Nat) : (m * 2 ^ c).log2 = m.log2 + c := by
  have positive : m * 2 ^ c ≠ 0 := (Nat.mul_pos hm (Nat.two_pow_pos c)).ne'
  rw [Nat.log2_eq_iff positive, pow_add, Nat.add_right_comm, pow_add]
  exact ⟨Nat.mul_le_mul_right _ (Nat.log2_self_le hm.ne'),
    Nat.mul_lt_mul_of_pos_right Nat.lt_log2_self (Nat.two_pow_pos c)⟩

/-- Trailing zeros do not matter. -/
theorem rounded_scale {m : Nat} (hm : 0 < m) (c : Nat) :
    rounded (m * 2 ^ c) = roundHalfEven m (2 ^ excess m) * 2 ^ excess m * 2 ^ c := by
  unfold rounded excess
  rw [log2_mul_two_pow hm]
  by_cases long : 23 ≤ m.log2
  · have together : m.log2 + c - 23 = m.log2 - 23 + c := by omega
    rw [together, pow_add, roundHalfEven_scale _ _ (Nat.two_pow_pos c), Nat.mul_assoc]
  -- with few digits nothing is lost
  · obtain ⟨d, zeros⟩ : ∃ d, c = d + (m.log2 + c - 23) := ⟨c - (m.log2 + c - 23), by omega⟩
    have none : m.log2 - 23 = 0 := by omega
    have whole : m * 2 ^ c = m * 2 ^ d * 2 ^ (m.log2 + c - 23) := by
      rw [Nat.mul_assoc, ← pow_add, ← zeros]
    rw [none, pow_zero, roundHalfEven_one, Nat.mul_one, whole,
      roundHalfEven_mul _ (Nat.two_pow_pos _)]

theorem rounded_of_short {m : Nat} (hm : 0 < m) (short : m < 2 ^ 24) (c : Nat) :
    rounded (m * 2 ^ c) = m * 2 ^ c := by
  have few : m.log2 < 24 := (Nat.log2_lt hm.ne').mpr short
  have none : excess m = 0 := by
    unfold excess
    omega
  rw [rounded_scale hm, none, pow_zero, Nat.mul_one, roundHalfEven_one]

theorem excess_mono {k l : Nat} (h : k ≤ l) : excess k ≤ excess l := by
  have digits : k.log2 ≤ l.log2 := by
    rw [Nat.log2_eq_log_two, Nat.log2_eq_log_two]
    exact Nat.log_mono_right h
  exact Nat.sub_le_sub_right digits 23

/-- A number that loses digits keeps twenty-four of them. -/
theorem kept_full {k : Nat} (long : 0 < excess k) : 2 ^ 23 ≤ k / 2 ^ excess k := by
  have positive : k ≠ 0 := by
    rintro rfl
    exact absurd long (by decide)
  have digits : 23 + excess k = k.log2 := by
    unfold excess at long ⊢
    omega
  rw [Nat.le_div_iff_mul_le (Nat.two_pow_pos _), ← pow_add, digits]
  exact Nat.log2_self_le positive

/-- Rounding may carry into a twenty-fifth digit, but no further. -/
theorem nearest_le {k : Nat} : roundHalfEven k (2 ^ excess k) ≤ 2 ^ 24 := by
  rcases k.eq_zero_or_pos with rfl | positive
  · decide
  · exact (roundHalfEven_bounds k _).2.trans (kept_digits positive).2

theorem rounded_mono {k l : Nat} (h : k ≤ l) : rounded k ≤ rounded l := by
  rcases (excess_mono h).lt_or_eq with more | same
  -- a power of two lies between
  · have full : 2 ^ 23 ≤ roundHalfEven l (2 ^ excess l) :=
      (kept_full (Nat.zero_lt_of_lt more)).trans (roundHalfEven_bounds l _).1
    calc rounded k
        ≤ 2 ^ 24 * 2 ^ excess k := Nat.mul_le_mul_right _ nearest_le
      _ = 2 ^ 23 * 2 ^ (excess k + 1) := by
          rw [pow_succ 2 (excess k)]
          omega
      _ ≤ 2 ^ 23 * 2 ^ excess l := Nat.mul_le_mul_left _ (Nat.pow_le_pow_right Nat.two_pos more)
      _ ≤ rounded l := Nat.mul_le_mul_right _ full
  · unfold rounded
    rw [same]
    exact Nat.mul_le_mul_right _ (roundHalfEven_mono h _)

/-! ## Rounding to the format -/

theorem shiftToTargetExponent_eq (m : Nat) {e : Int} (he : -149 ≤ e) :
    shiftToTargetExponent .binary32 m e .exact =
      (ExtendedMantissa.ofMantissaAndAccuracy m .exact >>> excess m, e + excess m) := by
  simp only [shiftToTargetExponent, shiftToExponent, lost_digits m he, excess]

/-- A carry into a twenty-fifth digit moves on to the exponent. -/
theorem fits_carried {r : Nat} {e : Int} (digits : r ≤ 2 ^ 24) (least : -149 ≤ e)
    (full : 2 ^ 23 ≤ r ∨ e = -149) :
    Fits (r / 2 ^ excess r) (e + excess r) ∧
      magnitude (r / 2 ^ excess r) (e + excess r) = magnitude r e := by
  rcases digits.lt_or_eq with short | rfl
  · have none : excess r = 0 := by
      rcases r.eq_zero_or_pos with rfl | positive
      · decide
      · have few : r.log2 < 24 := (Nat.log2_lt positive.ne').mpr short
        unfold excess
        omega
    rw [none, pow_zero, Nat.div_one, Nat.cast_zero, add_zero]
    exact ⟨⟨short, least, full⟩, rfl⟩
  · have one : excess (2 ^ 24) = 1 := by decide
    rw [one]
    refine ⟨⟨by decide, by omega, .inl (by decide)⟩, ?_⟩
    have next : (e + (1 : Nat) + 149).toNat = (e + 149).toNat + 1 := by omega
    unfold magnitude
    rw [next, pow_succ]
    omega

theorem roundWithAccuracy_eq (s : Sign) {m : Nat} (hm : 0 < m) {e : Int} (least : -149 ≤ e)
    (full : 2 ^ 23 ≤ m ∨ e = -149) :
    ∃ m' e', ∃ h : 0 < m', roundWithAccuracy .binary32 s m e .exact = .finite s m' e' h ∧
      Fits m' e' ∧ magnitude m' e' = rounded (magnitude m e) := by
  have high : -149 ≤ e + excess m := by omega
  have kept : 2 ^ 23 ≤ roundHalfEven m (2 ^ excess m) ∨ e + (excess m : Int) = -149 := by
    rcases (excess m).eq_zero_or_pos with none | long
    · rw [none, pow_zero, roundHalfEven_one, Nat.cast_zero, add_zero]
      exact full
    · exact .inl ((kept_full long).trans (roundHalfEven_bounds m _).1)
  obtain ⟨fits, same⟩ := fits_carried nearest_le high kept
  have value : magnitude (roundHalfEven m (2 ^ excess m)) (e + excess m) =
      rounded (magnitude m e) := by
    have exponent : (e + excess m + 149).toNat = excess m + (e + 149).toNat := by omega
    unfold magnitude
    rw [rounded_scale hm, exponent, pow_add, Nat.mul_assoc]
  have positive : 0 < roundHalfEven m (2 ^ excess m) :=
    (kept_digits hm).1.trans_le (roundHalfEven_bounds m _).1
  have some : 0 < roundHalfEven m (2 ^ excess m) / 2 ^ excess (roundHalfEven m (2 ^ excess m)) :=
    (kept_digits positive).1
  unfold roundWithAccuracy
  simp only [shiftToTargetExponent_eq m least, roundedMantissa_shiftRight,
    shiftToTargetExponent_eq _ high, shiftRight_mantissa, ofMantissaAndAccuracy_exact]
  rw [dif_neg some.ne']
  exact ⟨_, _, some, rfl, fits, same.trans value⟩

theorem round_eq (s : Sign) {m : Nat} (hm : 0 < m) {e : Int} (least : -149 ≤ e) :
    ∃ m' e', ∃ h : 0 < m', UnpackedFloat.round .binary32 s m e = .finite s m' e' h ∧
      Fits m' e' ∧ magnitude m' e' = rounded (magnitude m e) := by
  have floor : Format.binary32.minExponent = -149 := by decide
  have width : Format.binary32.mantissaBits = 24 := rfl
  have target : Format.binary32.targetExponent (totalExponent m e) =
      max (m.log2 + e - 23) (-149) := by
    simp only [Format.targetExponent, totalExponent, floor, width]
    omega
  unfold UnpackedFloat.round decreaseExponent
  simp only [target, Nat.shiftLeft_eq]
  generalize shift : (e - max (m.log2 + e - 23) (-149)).toNat = n
  have digits := log2_mul_two_pow hm n
  have scaled : magnitude (m * 2 ^ n) (e - n) = magnitude m e := by
    have exponent : (e + 149).toNat = n + (e - n + 149).toNat := by omega
    unfold magnitude
    rw [exponent, pow_add, Nat.mul_assoc]
  have positive : 0 < m * 2 ^ n := Nat.mul_pos hm (Nat.two_pow_pos n)
  have full : 2 ^ 23 ≤ m * 2 ^ n ∨ e - n = -149 := by
    rw [← Nat.le_log2 positive.ne', digits]
    omega
  rw [← scaled]
  exact roundWithAccuracy_eq s positive (by omega) full

/-! ## Sums -/

/-- A height rounded to twenty-four digits, its sign kept. -/
def settled (z : ℤ) : ℤ := if 0 ≤ z then rounded z.toNat else -rounded (-z).toNat

theorem settled_mono {z z' : ℤ} (h : z ≤ z') : settled z ≤ settled z' := by
  unfold settled
  split_ifs with low high high
  · exact_mod_cast rounded_mono (Int.toNat_le_toNat h)
  · omega
  · omega
  · have magnitudes := rounded_mono (Int.toNat_le_toNat (neg_le_neg h))
    omega

theorem settled_zero : settled 0 = 0 := by decide

theorem settled_apply (s : Sign) (k : Nat) : settled (s.apply k) = s.apply (rounded k) := by
  rcases k.eq_zero_or_pos with rfl | positive
  · cases s <;> decide
  · unfold settled
    cases s with
    | positive =>
        show (if 0 ≤ (k : ℤ) then _ else _) = _
        rw [if_pos (by omega)]
        rfl
    | negative =>
        show (if 0 ≤ -(k : ℤ) then _ else -(rounded (- -(k : ℤ)).toNat : ℤ)) = _
        rw [if_neg (by omega), neg_neg]
        rfl

/-- Numbers of the format are settled. -/
theorem settled_heightOf {u : UnpackedFloat} (inside : InFormat u) (finite : u.isFinite = true) :
    settled (heightOf u) = heightOf u := by
  cases u with
  | infinity s => cases finite
  | notANumber => cases finite
  | zero s => exact settled_zero
  | finite s m e h =>
      have whole : rounded (magnitude m e) = magnitude m e :=
        rounded_of_short h inside.1.digits _
      exact (settled_apply s _).trans (congrArg (fun k : Nat => s.apply k) whole)

theorem round_settles (s : Sign) {m : Nat} (hm : 0 < m) {e : Int} (least : -149 ≤ e) :
    Rounded (UnpackedFloat.round .binary32 s m e) ∧
      heightOf (UnpackedFloat.round .binary32 s m e) = settled (s.apply (magnitude m e)) := by
  obtain ⟨m', e', h, eq, fits, value⟩ := round_eq s hm least
  rw [eq, settled_apply, ← value]
  exact ⟨fits, rfl⟩

theorem normalize_settles (z : ℤ) {e : Int} (least : -149 ≤ e) :
    Rounded (UnpackedFloat.normalize .binary32 z e .positive) ∧
      heightOf (UnpackedFloat.normalize .binary32 z e .positive) =
        settled (z * 2 ^ (e + 149).toNat) := by
  unfold UnpackedFloat.normalize
  cases order : compare z 0 with
  | eq =>
      obtain rfl := compare_eq_iff_eq.mp order
      rw [Int.zero_mul]
      exact ⟨trivial, settled_zero.symm⟩
  | lt =>
      have below := compare_lt_iff_lt.mp order
      have opposite : -((-z).toNat : ℤ) = z := by omega
      have rounds := round_settles .negative (m := (-z).toNat) (by omega) least
      have exponent : Sign.negative.apply (magnitude (-z).toNat e) = z * 2 ^ (e + 149).toNat := by
        show -((magnitude (-z).toNat e : Nat) : ℤ) = _
        unfold magnitude
        rw [Nat.cast_mul, ← neg_mul, opposite]
        push_cast
        rfl
      rwa [exponent] at rounds
  | gt =>
      have above := compare_gt_iff_gt.mp order
      have same : (z.toNat : ℤ) = z := by omega
      have rounds := round_settles .positive (m := z.toNat) (by omega) least
      have exponent : Sign.positive.apply (magnitude z.toNat e) = z * 2 ^ (e + 149).toNat := by
        show ((magnitude z.toNat e : Nat) : ℤ) = _
        unfold magnitude
        rw [Nat.cast_mul, same]
        push_cast
        rfl
      rwa [exponent] at rounds

/-- A number keeps its height when it is written with a smaller exponent. -/
theorem apply_decreased (s : Sign) (m : Nat) {e f : Int} (least : -149 ≤ f) (smaller : f ≤ e) :
    s.apply ((m <<< (e - f).toNat : Nat) : ℤ) * 2 ^ (f + 149).toNat = s.apply (magnitude m e) := by
  have exponent : (e + 149).toNat = (e - f).toNat + (f + 149).toNat := by omega
  have value : m <<< (e - f).toNat * 2 ^ (f + 149).toNat = magnitude m e := by
    unfold magnitude
    rw [Nat.shiftLeft_eq, exponent, pow_add, Nat.mul_assoc]
  rw [← value]
  cases s <;> simp only [Sign.apply] <;> push_cast <;> ring

theorem add_settles {u v : UnpackedFloat} (hu : InFormat u) (hv : InFormat v)
    (finite : u.isFinite = true) (finite' : v.isFinite = true) :
    Rounded (UnpackedFloat.add .binary32 u v) ∧
      heightOf (UnpackedFloat.add .binary32 u v) = settled (heightOf u + heightOf v) := by
  cases u with
  | infinity s => cases finite
  | notANumber => cases finite
  | zero s =>
      have first : heightOf (.zero s) = 0 := rfl
      rw [first, zero_add, settled_heightOf hv finite']
      cases v with
      | infinity s' => cases finite'
      | notANumber => cases finite'
      | zero s' => cases s <;> cases s' <;> exact ⟨trivial, rfl⟩
      | finite s' m' e' h' => exact ⟨hv.1, rfl⟩
  | finite s m e h =>
      cases v with
      | infinity s' => cases finite'
      | notANumber => cases finite'
      | zero s' =>
          have second : heightOf (.zero s') = 0 := rfl
          rw [second, add_zero, settled_heightOf hu finite]
          exact ⟨hu.1, rfl⟩
      | finite s' m' e' h' =>
          have least : -149 ≤ min e e' := le_min hu.1.least hv.1.least
          have sum := normalize_settles (s.apply ((m <<< (e - min e e').toNat : Nat) : ℤ) +
            s'.apply ((m' <<< (e' - min e e').toNat : Nat) : ℤ)) least
          rw [add_mul, apply_decreased s m least (min_le_left e e'),
            apply_decreased s' m' least (min_le_right e e')] at sum
          exact sum

/-- The height of a sum is the sum of the heights, rounded and held against infinity. -/
theorem height_add {x y : Float32} (hx : x.isFinite = true) (hy : y.isFinite = true) :
    height (x + y) = capped (settled (height x + height y)) := by
  obtain ⟨rounded, value⟩ := add_settles (inFormat x) (inFormat y) hx hy
  rw [height, add_eq, ofModel_pack_unpack, heightOf_pack rounded, value]
  rfl

theorem unpack_of_not_finite {x : Float32} (number : x ≠ .nan) (unbounded : x.isFinite = false) :
    ∃ s, x.toModel.unpack = .infinity s := by
  have known := (unpack_ne_notANumber_iff x).mpr number
  have infinite : x.toModel.unpack.isFinite = false := unbounded
  cases reading : x.toModel.unpack with
  | infinity s => exact ⟨s, rfl⟩
  | notANumber => exact absurd reading known
  | zero s => simp [reading, UnpackedFloat.isFinite] at infinite
  | finite s m e h => simp [reading, UnpackedFloat.isFinite] at infinite

theorem height_of_not_finite {x : Float32} (number : x ≠ .nan) (unbounded : x.isFinite = false) :
    height x = -peak ∨ height x = peak := by
  obtain ⟨s, reading⟩ := unpack_of_not_finite number unbounded
  unfold height
  rw [reading]
  cases s
  · exact .inl rfl
  · exact .inr rfl

/-- Nothing finite moves infinity. -/
theorem add_of_not_finite {x y : Float32} (number : x ≠ .nan) (unbounded : x.isFinite = false)
    (hy : y.isFinite = true) : x + y = x := by
  obtain ⟨s, reading⟩ := unpack_of_not_finite number unbounded
  have bounded : y.toModel.unpack.isFinite = true := hy
  have stays : UnpackedFloat.add .binary32 (.infinity s) y.toModel.unpack = .infinity s := by
    cases other : y.toModel.unpack with
    | infinity s' => simp [other, UnpackedFloat.isFinite] at bounded
    | notANumber => simp [other, UnpackedFloat.isFinite] at bounded
    | zero s' => rfl
    | finite s' m' e' h' => rfl
  rw [add_eq, reading, stays, ← reading, ofModel_pack_self]

theorem add_commutes (x y : Float32) : x + y = y + x := by
  have unpacked : ∀ u v, UnpackedFloat.add .binary32 u v = UnpackedFloat.add .binary32 v u := by
    intro u v
    rcases u with (_ | _) | _ | (_ | _) | ⟨s, m, e, h⟩ <;>
      rcases v with (_ | _) | _ | (_ | _) | ⟨s', m', e', h'⟩
    case finite.finite => simp only [UnpackedFloat.add, min_comm e e', Int.add_comm]
    all_goals rfl
  rw [add_eq, add_eq, unpacked]

section Order

variable {x y c d : Float32}

theorem add_zero_level (x : Float32) : Level (x + 0) x := by
  rw [add_commutes]
  exact zero_add_level x

/-- A finite number added keeps the order. -/
theorem add_mono_left (h : x ≤ y) (hc : c.isFinite = true) : x + c ≤ y + c := by
  obtain ⟨hx, hy, low⟩ := (le_iff_height x y).mp h
  have sums : ∀ z, z ≠ .nan → z + c ≠ .nan := fun z number =>
    add_commutes c z ▸ add_ne_nan hc number
  refine (le_iff_height _ _).mpr ⟨sums x hx, sums y hy, ?_⟩
  cases finite : x.isFinite <;> cases finite' : y.isFinite
  case true.true =>
    rw [height_add finite hc, height_add finite' hc]
    exact capped_mono (settled_mono (by omega))
  case false.false =>
    rw [add_of_not_finite hx finite hc, add_of_not_finite hy finite' hc]
    exact low
  -- an infinity is below the other number, so it is the lower one
  case false.true =>
    have below := (height_bounds_of_finite finite').2
    have above := (height_bounds (y + c)).1
    rw [add_of_not_finite hx finite hc]
    rcases height_of_not_finite hx finite with bottom | top <;> omega
  case true.false =>
    have above := (height_bounds_of_finite finite).1
    have below := (height_bounds (x + c)).2
    rw [add_of_not_finite hy finite' hc]
    rcases height_of_not_finite hy finite' with bottom | top <;> omega

/-- The larger of two finite numbers added gives the larger sum. -/
theorem add_mono_right (hx : x ≠ .nan) (hc : c.isFinite = true) (h : c ≤ d)
    (hd : d.isFinite = true) : x + c ≤ x + d := by
  cases finite : x.isFinite with
  | true =>
      rw [add_commutes x c, add_commutes x d]
      exact add_mono_left h finite
  | false =>
      rw [add_of_not_finite hx finite hc, add_of_not_finite hx finite hd]
      exact self_le hx

theorem le_add_of_nonneg (number : x ≠ .nan) (nonneg : 0 ≤ d) (finite : d.isFinite = true) :
    x ≤ x + d :=
  ((add_zero_level x).le_iff (.refl _)).mp (add_mono_right number rfl nonneg finite)

end Order

end RobotCombat.Number
