/-
# RobotCombat.Proofs.Number.Sign — what becomes of a sign

Rounding, packing and unpacking carry the sign of a number along and never look at it,
so a sign can be moved out of a product and turns a difference into a sum, also where the
operands are infinite or no numbers:

* `neg_mul_eq`, `sub_neg_eq`, `add_neg_eq`: the three laws, as equalities of words;
* `abs_of_negative`: below zero the absolute value is the opposite number.

Elsewhere the absolute value is the number itself, but for a zero that loses its sign.
`Level` relates numbers that differ at most in the sign of zero: operations keep them level
(`Level.mul`, `Level.sub`, `Level.add`), and comparisons do not tell them apart
(`Level.lt_iff`, `Level.le_iff`).
-/
import RobotCombat.Proofs.Number.Side

namespace RobotCombat.Number

set_option autoImplicit false

open Float.Model (Format UnpackedFloat)
open Float.Model.UnpackedFloat

/-! ## Packing carries the sign along -/

/-- A word with the other sign unpacks to the opposite number. -/
theorem unpack_packComponents_neg (s : Sign) (e : BitVec Format.binary32.exponentBits)
    (m : BitVec Format.binary32.mantissaBitsWithoutImplicit) :
    unpack .binary32 (packComponents .binary32 (-s) e m) =
      (unpack .binary32 (packComponents .binary32 s e m)).neg := by
  unfold unpack
  simp only [unpackSign_packComponents, unpackExponent_packComponents,
    unpackMantissa_packComponents, Sign.ofBitVec_toBitVec]
  split
  · split <;> rfl
  · split
    · split <;> rfl
    · rfl

theorem unpack_pack_neg (u : UnpackedFloat) :
    unpack .binary32 (pack .binary32 u.neg) = (unpack .binary32 (pack .binary32 u)).neg := by
  cases u with
  | notANumber =>
      rw [UnpackedFloat.neg, (unpack_eq_notANumber_iff_of_valid valid_pack).mpr rfl]
      rfl
  | infinity s => exact unpack_packComponents_neg s _ _
  | zero s => exact unpack_packComponents_neg s _ _
  | finite s m e h =>
      unfold UnpackedFloat.neg pack
      dsimp only
      split
      · exact unpack_packComponents_neg s _ _
      · split <;> exact unpack_packComponents_neg s _ _

/-- Packing undoes unpacking, since a word without a number has but one form. -/
theorem pack_unpack_of_valid {word : BitVec Format.binary32.numBits}
    (valid : Format.binary32.Valid word) : pack .binary32 (unpack .binary32 word) = word := by
  rw [pack_unpack word]
  split
  · rename_i missing
    obtain ⟨exponent, mantissa⟩ := of_decide_eq_true missing
    exact (valid.eq_packedNaN exponent mantissa).symm
  · rfl

theorem ofModel_pack_self (x : Float32) : Float32.ofModel (.pack x.toModel.unpack) = x := by
  obtain ⟨⟨word, valid⟩⟩ := x
  have same := pack_unpack_of_valid valid
  simp only [Float32.Model.pack, Float32.Model.unpack, same]

theorem unpack_neg (x : Float32) : (-x).toModel.unpack = x.toModel.unpack.neg := by
  obtain ⟨⟨word, valid⟩⟩ := x
  show unpack .binary32 (pack .binary32 (unpack .binary32 word.toBitVec).neg) = _
  rw [unpack_pack_neg, pack_unpack_of_valid valid]
  rfl

/-- The opposite of a packed number packs the opposite number. -/
theorem neg_ofModel_pack (u : UnpackedFloat) :
    -Float32.ofModel (.pack u) = .ofModel (.pack u.neg) := by
  rw [← ofModel_pack_self (-_), unpack_neg, ofModel_pack_unpack, ← unpack_pack_neg,
    ← ofModel_pack_unpack, ofModel_pack_self]

/-! ## Products and differences -/

theorem roundWithAccuracy_neg (s : Sign) (m : Nat) (e : Int) (a : Accuracy) :
    roundWithAccuracy .binary32 (-s) m e a = (roundWithAccuracy .binary32 s m e a).neg := by
  unfold roundWithAccuracy
  dsimp only
  split <;> rfl

theorem mul_neg_left (u v : UnpackedFloat) :
    UnpackedFloat.mul .binary32 u.neg v = (UnpackedFloat.mul .binary32 u v).neg := by
  have signs (s s' : Sign) : -s * s' = -(s * s') := by cases s <;> cases s' <;> rfl
  rcases u with s | _ | s | ⟨s, m, e, h⟩ <;> rcases v with s' | _ | s' | ⟨s', m', e', h'⟩ <;>
    simp only [UnpackedFloat.mul, UnpackedFloat.neg, signs, roundWithAccuracy_neg]

theorem sub_neg_right (u v : UnpackedFloat) :
    UnpackedFloat.sub .binary32 u v.neg = UnpackedFloat.add .binary32 u v := by
  have signs (s : Sign) : - -s = s := by cases s <;> rfl
  have applied (s : Sign) (n : Int) : (-s).apply n = -s.apply n := by
    cases s
    · exact (Int.neg_neg n).symm
    · rfl
  rcases u with s | _ | s | ⟨s, m, e, h⟩ <;> rcases v with s' | _ | s' | ⟨s', m', e', h'⟩ <;>
    simp only [UnpackedFloat.sub, UnpackedFloat.add, UnpackedFloat.neg, signs, applied,
      Int.sub_neg]

theorem neg_neg_self (u : UnpackedFloat) : u.neg.neg = u := by
  rcases u with (_ | _) | _ | (_ | _) | ⟨_ | _, m, e, h⟩ <;> rfl

/-- A sign comes out of a product. -/
theorem neg_mul_eq (x y : Float32) : -x * y = -(x * y) := by
  rw [mul_eq, mul_eq, unpack_neg, mul_neg_left, neg_ofModel_pack]

/-- To take away an opposite is to add. -/
theorem sub_neg_eq (x y : Float32) : x - -y = x + y := by
  rw [sub_eq, add_eq, unpack_neg, sub_neg_right]

theorem add_neg_eq (x y : Float32) : x + -y = x - y := by
  rw [sub_eq, add_eq, unpack_neg, ← sub_neg_right, neg_neg_self]

theorem unpack_of_negative {x : Float32} (below : x < 0) :
    (∃ m e h, x.toModel.unpack = .finite .negative m e h) ∨
      x.toModel.unpack = .infinity .negative := by
  have side : ¬ OnSide .positive x.toModel.unpack := fun side =>
    (onSide_positive_iff x).mp side below
  rcases reading : x.toModel.unpack with (_ | _) | _ | _ | ⟨_ | _, m, e, h⟩ <;>
    simp_all [OnSide]

/-- Below zero the absolute value is the opposite number. -/
theorem abs_of_negative {x : Float32} (below : x < 0) : x.abs = -x := by
  have flipped : x.toModel.unpack.abs = x.toModel.unpack.neg := by
    rcases unpack_of_negative below with ⟨m, e, h, reading⟩ | reading <;> rw [reading] <;> rfl
  show Float32.ofModel (.pack x.toModel.unpack.abs) = .ofModel (.pack x.toModel.unpack.neg)
  rw [flipped]

/-! ## Numbers that differ at most in the sign of zero -/

/-- Equal unpacked numbers, or zeros of any sign. -/
def LevelOf (u v : UnpackedFloat) : Prop :=
  u = v ∨ ∃ s s', u = .zero s ∧ v = .zero s'

/-- Equal numbers, or zeros of any sign. -/
def Level (x y : Float32) : Prop := LevelOf x.toModel.unpack y.toModel.unpack

theorem Level.refl (x : Float32) : Level x x := Or.inl rfl

theorem LevelOf.symm {u v : UnpackedFloat} (level : LevelOf u v) : LevelOf v u := by
  rcases level with same | ⟨s, s', zero, zero'⟩
  · exact Or.inl same.symm
  · exact Or.inr ⟨s', s, zero', zero⟩

theorem LevelOf.trans {u v w : UnpackedFloat} (first : LevelOf u v) (second : LevelOf v w) :
    LevelOf u w := by
  rcases first with rfl | ⟨s, s', rfl, rfl⟩
  · exact second
  · rcases second with rfl | ⟨_, s'', _, rfl⟩
    · exact Or.inr ⟨s, s', rfl, rfl⟩
    · exact Or.inr ⟨s, s'', rfl, rfl⟩

theorem Level.symm {x y : Float32} (level : Level x y) : Level y x := LevelOf.symm level

/-- Numbers of one place are level. -/
theorem levelOf_of_rankOf {u v : UnpackedFloat} (hu : u ≠ .notANumber) (hv : v ≠ .notANumber)
    (same : rankOf u = rankOf v) : LevelOf u v := by
  rcases u with (_ | _) | _ | _ | ⟨_ | _, m, e, h⟩ <;>
    rcases v with (_ | _) | _ | _ | ⟨_ | _, m', e', h'⟩ <;>
      simp_all [rankOf, LevelOf]

theorem levelOf_pack {u v : UnpackedFloat} (level : LevelOf u v) :
    LevelOf (unpack .binary32 (pack .binary32 u)) (unpack .binary32 (pack .binary32 v)) := by
  rcases level with rfl | ⟨s, s', rfl, rfl⟩
  · exact Or.inl rfl
  · exact Or.inr ⟨s, s', (unpack_eq_zero_iff_of_valid valid_pack).mpr rfl,
      (unpack_eq_zero_iff_of_valid valid_pack).mpr rfl⟩

/-- What is not below zero is its own absolute value, up to the sign of zero. -/
theorem abs_level {x : Float32} (nonneg : ¬ x < 0) : Level x.abs x := by
  have side := (onSide_positive_iff x).mpr nonneg
  have level : LevelOf x.toModel.unpack.abs x.toModel.unpack := by
    rcases reading : x.toModel.unpack with s | _ | s | ⟨s, m, e, h⟩ <;> rw [reading] at side
    · exact Or.inl (congrArg UnpackedFloat.infinity (Eq.symm side))
    · exact Or.inl rfl
    · exact Or.inr ⟨_, _, rfl, rfl⟩
    · obtain rfl : s = .positive := side
      exact Or.inl rfl
  have packed := levelOf_pack level
  rw [← ofModel_pack_unpack x.toModel.unpack, ofModel_pack_self] at packed
  exact packed

/-! ## Operations on level numbers -/

theorem levelOf_zero_mul (s s' : Sign) (v : UnpackedFloat) :
    LevelOf (UnpackedFloat.mul .binary32 (.zero s) v) (UnpackedFloat.mul .binary32 (.zero s') v) := by
  cases v with
  | infinity _ => exact Or.inl rfl
  | notANumber => exact Or.inl rfl
  | zero _ => exact Or.inr ⟨_, _, rfl, rfl⟩
  | finite _ _ _ _ => exact Or.inr ⟨_, _, rfl, rfl⟩

theorem levelOf_mul_zero (u : UnpackedFloat) (s s' : Sign) :
    LevelOf (UnpackedFloat.mul .binary32 u (.zero s)) (UnpackedFloat.mul .binary32 u (.zero s')) := by
  cases u with
  | infinity _ => exact Or.inl rfl
  | notANumber => exact Or.inl rfl
  | zero _ => exact Or.inr ⟨_, _, rfl, rfl⟩
  | finite _ _ _ _ => exact Or.inr ⟨_, _, rfl, rfl⟩

theorem levelOf_sub_zero (u : UnpackedFloat) (s s' : Sign) :
    LevelOf (UnpackedFloat.sub .binary32 u (.zero s)) (UnpackedFloat.sub .binary32 u (.zero s')) := by
  rcases u with _ | _ | s₁ | _
  · exact Or.inl rfl
  · exact Or.inl rfl
  · cases s₁ <;> cases s <;> cases s' <;> exact Or.inr ⟨_, _, rfl, rfl⟩
  · exact Or.inl rfl

theorem levelOf_zero_sub (s s' : Sign) (v : UnpackedFloat) :
    LevelOf (UnpackedFloat.sub .binary32 (.zero s) v) (UnpackedFloat.sub .binary32 (.zero s') v) := by
  rcases v with _ | _ | s₁ | _
  · exact Or.inl rfl
  · exact Or.inl rfl
  · cases s₁ <;> cases s <;> cases s' <;> exact Or.inr ⟨_, _, rfl, rfl⟩
  · exact Or.inl rfl

/-- An operation that gives both zeros the same, up to the sign of zero, respects levels. -/
theorem levelOf_operation {op : UnpackedFloat → UnpackedFloat → UnpackedFloat}
    (first : ∀ s s' v, LevelOf (op (.zero s) v) (op (.zero s') v))
    (second : ∀ u s s', LevelOf (op u (.zero s)) (op u (.zero s')))
    {u u' v v' : UnpackedFloat} (level : LevelOf u u') (level' : LevelOf v v') :
    LevelOf (op u v) (op u' v') := by
  refine LevelOf.trans (v := op u' v) ?_ ?_
  · rcases level with rfl | ⟨s, s', rfl, rfl⟩
    · exact Or.inl rfl
    · exact first s s' v
  · rcases level' with rfl | ⟨s, s', rfl, rfl⟩
    · exact Or.inl rfl
    · exact second u' s s'

section Operations

variable {x x' y y' : Float32}

theorem Level.mul (level : Level x x') (level' : Level y y') : Level (x * y) (x' * y') := by
  rw [Level, mul_eq, mul_eq, ofModel_pack_unpack, ofModel_pack_unpack]
  exact levelOf_pack (levelOf_operation levelOf_zero_mul levelOf_mul_zero level level')

theorem Level.sub (level : Level x x') (level' : Level y y') : Level (x - y) (x' - y') := by
  rw [Level, sub_eq, sub_eq, ofModel_pack_unpack, ofModel_pack_unpack]
  exact levelOf_pack (levelOf_operation levelOf_zero_sub levelOf_sub_zero level level')

theorem Level.neg (level : Level x x') : Level (-x) (-x') := by
  rw [Level, unpack_neg, unpack_neg]
  rcases level with same | ⟨s, s', zero, zero'⟩
  · exact Or.inl (congrArg UnpackedFloat.neg same)
  · rw [zero, zero']
    exact Or.inr ⟨_, _, rfl, rfl⟩

theorem Level.add (level : Level x x') (level' : Level y y') : Level (x + y) (x' + y') := by
  rw [← sub_neg_eq, ← sub_neg_eq]
  exact level.sub level'.neg

/-- Adding to zero changes at most the sign of a zero. -/
theorem zero_add_level (x : Float32) : Level (0 + x) x := by
  have sum : LevelOf (UnpackedFloat.add .binary32 (.zero .positive) x.toModel.unpack)
      x.toModel.unpack := by
    rcases x.toModel.unpack with s | _ | s | ⟨s, m, e, h⟩
    · exact Or.inl rfl
    · exact Or.inl rfl
    · cases s <;> exact Or.inr ⟨_, _, rfl, rfl⟩
    · exact Or.inl rfl
  have packed := levelOf_pack sum
  rw [← ofModel_pack_unpack x.toModel.unpack, ofModel_pack_self] at packed
  rw [Level, add_eq, ofModel_pack_unpack, unpack_zero]
  exact packed

theorem Level.isNaN (level : Level x x') : x.isNaN = x'.isNaN := by
  show x.toModel.unpack.isNaN = x'.toModel.unpack.isNaN
  rcases level with same | ⟨s, s', zero, zero'⟩
  · rw [same]
  · rw [zero, zero']
    rfl

theorem Level.ne_nan_iff (level : Level x x') : x ≠ .nan ↔ x' ≠ .nan := by
  have same := level.isNaN
  rw [Float32.isNaN_eq_decide_eq_nan, Float32.isNaN_eq_decide_eq_nan, decide_eq_decide] at same
  exact not_congr same

theorem Level.rank (level : Level x x') : rank x = rank x' := by
  rcases level with same | ⟨s, s', zero, zero'⟩
  · exact congrArg rankOf same
  · rw [Number.rank, Number.rank, zero, zero']
    rfl

/-- The order does not see the sign of zero. -/
theorem Level.lt_iff (level : Level x x') (level' : Level y y') : x < y ↔ x' < y' := by
  rw [lt_iff_rank, lt_iff_rank, level.rank, level'.rank, level.ne_nan_iff, level'.ne_nan_iff]

theorem Level.le_iff (level : Level x x') (level' : Level y y') : x ≤ y ↔ x' ≤ y' := by
  rw [le_iff_rank, le_iff_rank, level.rank, level'.rank, level.ne_nan_iff, level'.ne_nan_iff]

/-- Numbers that are not above each other are level. -/
theorem Level.antisymm (below : x ≤ x') (above : x' ≤ x) : Level x x' := by
  obtain ⟨number, number', low⟩ := (le_iff_rank x x').mp below
  have same : Number.rank x = Number.rank x' := low.antisymm ((le_iff_rank x' x).mp above).2.2
  exact levelOf_of_rankOf ((unpack_ne_notANumber_iff x).mpr number)
    ((unpack_ne_notANumber_iff x').mpr number') same

theorem Level.larger (level : Level x x') (level' : Level y y') :
    Level (larger x y) (larger x' y') := by
  unfold Number.larger
  simp only [level'.isNaN, level'.lt_iff level]
  split
  · exact level
  · split
    · exact level
    · exact level'

theorem Level.smaller (level : Level x x') (level' : Level y y') :
    Level (smaller x y) (smaller x' y') := by
  unfold Number.smaller
  simp only [level.isNaN, level'.lt_iff level]
  split
  · exact level'
  · split
    · exact level'
    · exact level

/-- Moved above the upper end of a range and then below the lower one, everything comes to
the lower end. -/
theorem smaller_larger_level (ordered : x ≤ x') (z : Float32) :
    Level (Number.smaller (Number.larger z x') x) x := by
  have number : x' ≠ .nan := ne_nan_of_le_right ordered
  have above : x' ≤ Number.larger z x' := by
    by_cases missing : z = .nan
    · have unrelated : ¬ x' < z := fun less => ne_nan_of_lt_right less missing
      rw [Number.larger, if_neg (by simpa using number), if_neg unrelated]
      exact self_le number
    · exact (le_larger missing number).2
  have reach : x ≤ Number.larger z x' := le_of_le_of_le ordered above
  rw [Number.smaller, if_neg (by simpa using ne_nan_of_le_right reach)]
  split
  · exact Level.refl x
  · rename_i notBelow
    exact Level.antisymm
      (le_of_not_less (ne_nan_of_le_left ordered) (ne_nan_of_le_right reach) notBelow) reach

end Operations

end RobotCombat.Number
