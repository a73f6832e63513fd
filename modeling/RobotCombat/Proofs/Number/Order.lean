/-
# RobotCombat.Proofs.Number.Order — the order of 32-bit numbers

A number has a place on a line, its `rank`: minus infinity first, then the
negative numbers by falling exponent and mantissa, both zeros in one place, the
positive numbers, and infinity. What is not a number has none. `lt_iff_rank` and
`le_iff_rank` say that the two comparisons compare ranks of numbers, so every law
of a linear order holds of them as far as no missing number is involved.

* `less_of_not_le`, `le_of_not_less`: of two numbers one comparison holds or its opposite;
* `clamp_between`: a number moved into a range lies in it;
* `le_larger`: the larger of two numbers is above both;
* `zero_le_larger`: the larger of anything and zero is a number, and not negative.
-/
import Mathlib
import RobotCombat.Number.Single

namespace RobotCombat.Number

set_option autoImplicit false

open Float.Model (UnpackedFloat)
open Float.Model.UnpackedFloat (Sign)

/-- The place of an unpacked number: its class, then exponent and mantissa. -/
def rankOf : UnpackedFloat → ℤ ×ₗ ℤ ×ₗ ℤ
  | .infinity .negative => toLex (-2, toLex (0, 0))
  | .finite .negative mantissa exponent _ => toLex (-1, toLex (-exponent, -mantissa))
  | .zero _ => toLex (0, toLex (0, 0))
  | .notANumber => toLex (0, toLex (0, 0))
  | .finite .positive mantissa exponent _ => toLex (1, toLex (exponent, mantissa))
  | .infinity .positive => toLex (2, toLex (0, 0))

/-- The order of signs, as the comparison of infinities uses it. -/
theorem compare_signs :
    compare Sign.negative Sign.negative = .eq ∧ compare Sign.negative Sign.positive = .lt ∧
      compare Sign.positive Sign.negative = .gt ∧ compare Sign.positive Sign.positive = .eq :=
  ⟨rfl, rfl, rfl, rfl⟩

theorem compare_eq_lt_iff {u v : UnpackedFloat} (hu : u ≠ .notANumber) (hv : v ≠ .notANumber) :
    u.compare v = some .lt ↔ rankOf u < rankOf v := by
  rcases u with (_ | _) | _ | _ | ⟨_ | _, m, e, _⟩ <;>
    rcases v with (_ | _) | _ | _ | ⟨_ | _, m', e', _⟩ <;>
      simp_all [UnpackedFloat.compare, rankOf, compare_signs, Prod.Lex.toLex_lt_toLex,
        Ordering.then_eq_lt, Ordering.then_eq_gt, compare_lt_iff_lt, compare_gt_iff_gt]

theorem compare_eq_eq_iff {u v : UnpackedFloat} (hu : u ≠ .notANumber) (hv : v ≠ .notANumber) :
    u.compare v = some .eq ↔ rankOf u = rankOf v := by
  rcases u with (_ | _) | _ | _ | ⟨_ | _, m, e, _⟩ <;>
    rcases v with (_ | _) | _ | _ | ⟨_ | _, m', e', _⟩ <;>
      simp_all [UnpackedFloat.compare, rankOf, compare_signs, Ordering.then_eq_eq,
        Ordering.swap_eq_eq]

/-- What is not a number compares with nothing. -/
theorem compare_eq_none_iff (u v : UnpackedFloat) :
    u.compare v = none ↔ u = .notANumber ∨ v = .notANumber := by
  rcases u with (_ | _) | _ | _ | ⟨_ | _, m, e, _⟩ <;>
    rcases v with (_ | _) | _ | _ | ⟨_ | _, m', e', _⟩ <;>
      simp [UnpackedFloat.compare]

/-- The place of a 32-bit number. -/
def rank (x : Float32) : ℤ ×ₗ ℤ ×ₗ ℤ := rankOf x.toModel.unpack

theorem unpack_ne_notANumber_iff (x : Float32) :
    x.toModel.unpack ≠ .notANumber ↔ x ≠ .nan := by
  have reading : x.isNaN = x.toModel.unpack.isNaN := rfl
  rw [Float32.isNaN_eq_decide_eq_nan] at reading
  rw [ne_eq, ne_eq, ← UnpackedFloat.isNaN_iff, ← reading, decide_eq_true_iff]

/-- Only numbers compare. -/
theorem ne_nan_of_compare {x y : Float32} {o : Ordering}
    (compared : x.toModel.unpack.compare y.toModel.unpack = some o) : x ≠ .nan ∧ y ≠ .nan := by
  have isSome : ¬ x.toModel.unpack.compare y.toModel.unpack = none := by simp [compared]
  rw [compare_eq_none_iff, not_or] at isSome
  exact ⟨(unpack_ne_notANumber_iff x).mp isSome.1, (unpack_ne_notANumber_iff y).mp isSome.2⟩

theorem lt_iff_compare (x y : Float32) :
    x < y ↔ x.toModel.unpack.compare y.toModel.unpack = some .lt := by
  show decide (x.toModel < y.toModel) = true ↔ _
  rw [decide_eq_true_iff]
  exact beq_iff_eq

theorem le_iff_compare (x y : Float32) :
    x ≤ y ↔ x.toModel.unpack.compare y.toModel.unpack = some .lt ∨
      x.toModel.unpack.compare y.toModel.unpack = some .eq := by
  show decide (x.toModel ≤ y.toModel) = true ↔ _
  rw [decide_eq_true_iff]
  show (x.toModel.unpack.compare y.toModel.unpack).any (·.isLE) = true ↔ _
  cases x.toModel.unpack.compare y.toModel.unpack with
  | none => simp
  | some o => cases o <;> simp

theorem lt_iff_rank (x y : Float32) : x < y ↔ x ≠ .nan ∧ y ≠ .nan ∧ rank x < rank y := by
  rw [lt_iff_compare]
  constructor
  · intro less
    obtain ⟨hx, hy⟩ := ne_nan_of_compare less
    exact ⟨hx, hy, (compare_eq_lt_iff ((unpack_ne_notANumber_iff x).mpr hx)
      ((unpack_ne_notANumber_iff y).mpr hy)).mp less⟩
  · rintro ⟨hx, hy, less⟩
    exact (compare_eq_lt_iff ((unpack_ne_notANumber_iff x).mpr hx)
      ((unpack_ne_notANumber_iff y).mpr hy)).mpr less

theorem le_iff_rank (x y : Float32) : x ≤ y ↔ x ≠ .nan ∧ y ≠ .nan ∧ rank x ≤ rank y := by
  rw [le_iff_compare, ← lt_iff_compare, lt_iff_rank, le_iff_lt_or_eq]
  constructor
  · rintro (⟨hx, hy, less⟩ | same)
    · exact ⟨hx, hy, Or.inl less⟩
    · obtain ⟨hx, hy⟩ := ne_nan_of_compare same
      exact ⟨hx, hy, Or.inr ((compare_eq_eq_iff ((unpack_ne_notANumber_iff x).mpr hx)
        ((unpack_ne_notANumber_iff y).mpr hy)).mp same)⟩
  · rintro ⟨hx, hy, less | same⟩
    · exact Or.inl ⟨hx, hy, less⟩
    · exact Or.inr ((compare_eq_eq_iff ((unpack_ne_notANumber_iff x).mpr hx)
        ((unpack_ne_notANumber_iff y).mpr hy)).mpr same)

/-! ## The laws of the two comparisons -/

section Laws

variable {x y : Float32}

theorem ne_nan_of_lt_right (h : x < y) : y ≠ .nan := ((lt_iff_rank x y).mp h).2.1

theorem ne_nan_of_le_left (h : x ≤ y) : x ≠ .nan := ((le_iff_rank x y).mp h).1

theorem ne_nan_of_le_right (h : x ≤ y) : y ≠ .nan := ((le_iff_rank x y).mp h).2.1

theorem self_le (hx : x ≠ .nan) : x ≤ x := (le_iff_rank x x).mpr ⟨hx, hx, le_rfl⟩

theorem le_of_less (h : x < y) : x ≤ y := by
  obtain ⟨hx, hy, less⟩ := (lt_iff_rank x y).mp h
  exact (le_iff_rank x y).mpr ⟨hx, hy, less.le⟩

theorem le_of_le_of_le {z : Float32} (h : x ≤ y) (h' : y ≤ z) : x ≤ z := by
  obtain ⟨hx, -, low⟩ := (le_iff_rank x y).mp h
  obtain ⟨-, hz, high⟩ := (le_iff_rank y z).mp h'
  exact (le_iff_rank x z).mpr ⟨hx, hz, low.trans high⟩

theorem not_le_of_less (h : x < y) : ¬ y ≤ x := by
  intro back
  exact absurd ((lt_iff_rank x y).mp h).2.2 (not_lt_of_ge ((le_iff_rank y x).mp back).2.2)

/-- Of two numbers the first one is below the second one or not above it. -/
theorem less_of_not_le (hx : x ≠ .nan) (hy : y ≠ .nan) (h : ¬ x ≤ y) : y < x := by
  rw [le_iff_rank, not_and, not_and, not_le] at h
  exact (lt_iff_rank y x).mpr ⟨hy, hx, h hx hy⟩

theorem le_of_not_less (hx : x ≠ .nan) (hy : y ≠ .nan) (h : ¬ x < y) : y ≤ x := by
  rw [lt_iff_rank, not_and, not_and, not_lt] at h
  exact (le_iff_rank y x).mpr ⟨hy, hx, h hx hy⟩

end Laws

/-- What lies between zero and a finite number is finite. -/
theorem isFinite_of_le {x y : Float32} (low : 0 ≤ x) (high : x ≤ y) (finite : y.isFinite = true) :
    x.isFinite = true := by
  have bounded : y.toModel.unpack.isFinite = true := finite
  have number := (unpack_ne_notANumber_iff x).mpr (ne_nan_of_le_left high)
  have zero : rank 0 = toLex (0, toLex (0, 0)) := rfl
  have above := ((le_iff_rank 0 x).mp low).2.2
  have below := ((le_iff_rank x y).mp high).2.2
  rw [zero, rank] at above
  rw [rank, rank] at below
  show x.toModel.unpack.isFinite = true
  generalize y.toModel.unpack = v at bounded below
  cases reading : x.toModel.unpack with
  | zero s => rfl
  | finite s m e h => rfl
  | notANumber => exact absurd reading number
  | infinity s =>
      rw [reading] at above below
      rcases s with _ | _ <;> rcases v with (_ | _) | _ | _ | ⟨_ | _, m, e, h⟩ <;>
        simp_all [rankOf, UnpackedFloat.isFinite, Prod.Lex.toLex_le_toLex]

theorem ne_nan_of_isFinite {x : Float32} (finite : x.isFinite = true) : x ≠ .nan := by
  rintro rfl
  revert finite
  decide

theorem zero_ne_nan : (0 : Float32) ≠ .nan := by decide

/-! ## Clamping and the larger of two numbers -/

/-- A number moved into a range lies in it. -/
theorem clamp_between {x low high : Float32} (hx : x ≠ .nan) (range : low ≤ high) :
    low ≤ clamp x low high ∧ clamp x low high ≤ high := by
  have hlow := ne_nan_of_le_left range
  have hhigh := ne_nan_of_le_right range
  unfold clamp
  split
  · exact ⟨self_le hlow, range⟩
  · rename_i notBelow
    split
    · exact ⟨range, self_le hhigh⟩
    · rename_i notAbove
      exact ⟨le_of_not_less hx hlow notBelow, le_of_not_less hhigh hx notAbove⟩

/-- A number in the range stays where it is. -/
theorem clamp_of_mem {x low high : Float32} (above : low ≤ x) (below : x ≤ high) :
    clamp x low high = x := by
  unfold clamp
  rw [if_neg fun less => not_le_of_less less above, if_neg fun less => not_le_of_less less below]

theorem larger_eq (x y : Float32) : larger x y = x ∨ larger x y = y := by
  unfold larger
  split
  · exact .inl rfl
  · split
    · exact .inl rfl
    · exact .inr rfl

/-- The larger of two numbers is above both. -/
theorem le_larger {x y : Float32} (hx : x ≠ .nan) (hy : y ≠ .nan) :
    x ≤ larger x y ∧ y ≤ larger x y := by
  unfold larger
  rw [if_neg (by simpa using hy)]
  split
  · rename_i above
    exact ⟨self_le hx, le_of_less above⟩
  · rename_i notAbove
    exact ⟨le_of_not_less hy hx notAbove, self_le hy⟩

/-- The larger of anything and zero is a number that is not negative. -/
theorem zero_le_larger (x : Float32) : 0 ≤ larger x 0 := by
  unfold larger
  rw [if_neg (by simp [zero_ne_nan])]
  split
  · rename_i positive
    exact le_of_less positive
  · exact self_le zero_ne_nan

end RobotCombat.Number
