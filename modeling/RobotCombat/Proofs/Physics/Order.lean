/-
# RobotCombat.Proofs.Physics.Order — meetings sorted by their pairs

A pair of a body and what it touches has a rank: first the body, then bodies before walls
before sensors, each kind in its own order. Meetings are sorted by the rank of their pairs
(`isLE_order`), and if no pair stands twice among them, there is one way to do so
(`sort_eq`).
-/
import Mathlib.Data.List.Sort
import Mathlib.Data.Prod.Lex
import RobotCombat.Physics.World

namespace RobotCombat

set_option autoImplicit false

/-! ## Ranks -/

/-- The place of a kind of contact among those of one body. -/
def Touched.rank : Touched → ℕ ×ₗ ℕ
  | .body place => toLex (0, place)
  | .wall side => toLex (1, WallSide.all.idxOf side)
  | .sensor place => toLex (2, place)

/-- The place of a pair among all pairs. -/
def pairRank (pair : Nat × Touched) : ℕ ×ₗ ℕ ×ₗ ℕ := toLex (pair.1, pair.2.rank)

theorem pairRank_lt_of_body {i j : Nat} (below : i < j) (x y : Touched) :
    pairRank (i, x) < pairRank (j, y) :=
  Prod.Lex.toLex_lt_toLex.mpr (.inl below)

theorem pairRank_lt_iff {i : Nat} {x y : Touched} :
    pairRank (i, x) < pairRank (i, y) ↔ x.rank < y.rank := by
  simp [pairRank, Prod.Lex.toLex_lt_toLex]

theorem Touched.isLE_compare (x y : Touched) : (compare x y).isLE = true ↔ x.rank ≤ y.rank := by
  cases x <;> cases y
  case body.body i j =>
    have same : compare (Touched.body i) (.body j) = compare i j := Ordering.then_eq
    simpa [same, rank, Prod.Lex.toLex_le_toLex] using Nat.isLE_compare
  case sensor.sensor i j =>
    have same : compare (Touched.sensor i) (.sensor j) = compare i j := Ordering.then_eq
    simpa [same, rank, Prod.Lex.toLex_le_toLex] using Nat.isLE_compare
  case wall.wall s s' => cases s <;> cases s' <;> decide
  all_goals simp [rank, Prod.Lex.toLex_le_toLex, compare, instOrdTouched.ord]

namespace World

namespace Meeting

/-- Meetings are sorted by the rank of their pairs. -/
theorem isLE_order (m m' : Meeting) :
    (m.order m').isLE = true ↔ pairRank m.pair ≤ pairRank m'.pair := by
  rw [order, Ordering.isLE_then_iff_or, Touched.isLE_compare, Nat.compare_eq_lt,
    Nat.compare_eq_eq, pairRank, pairRank, Prod.Lex.toLex_le_toLex]
  rfl

instance : Std.Total fun m m' : Meeting => (m.order m').isLE = true where
  total m m' := by
    rw [isLE_order, isLE_order]
    exact le_total (pairRank m.pair) (pairRank m'.pair)

instance : IsTrans Meeting fun m m' => (m.order m').isLE = true where
  trans m m' m'' := by
    rw [isLE_order, isLE_order, isLE_order]
    exact le_trans

theorem insert_eq_orderedInsert (m : Meeting) (sorted : List Meeting) :
    m.insert sorted = sorted.orderedInsert (fun m m' => (m.order m').isLE = true) m := by
  induction sorted with
  | nil => rfl
  | cons m' sorted ih => rw [insert, List.orderedInsert_cons, ih]

theorem sort_eq_insertionSort (ms : List Meeting) :
    sort ms = ms.insertionSort fun m m' => (m.order m').isLE = true := by
  induction ms with
  | nil => rfl
  | cons m ms ih => rw [sort, List.insertionSort_cons, insert_eq_orderedInsert, ih]

/-- A list in which no pair stands twice is sorted in one way only. -/
theorem sort_eq {ms sorted : List Meeting} (same : ms.Perm sorted)
    (increase : sorted.Pairwise fun m m' => pairRank m.pair < pairRank m'.pair) :
    sort ms = sorted := by
  have perm : (sort ms).Perm sorted := by
    rw [sort_eq_insertionSort]
    exact (List.perm_insertionSort _ ms).trans same
  have rise : (sort ms).Pairwise fun m m' => pairRank m.pair ≤ pairRank m'.pair := by
    rw [sort_eq_insertionSort]
    exact (List.pairwise_insertionSort _ ms).imp fun {m m'} => (isLE_order m m').mp
  have distinct : (sort ms).Pairwise fun m m' => pairRank m.pair ≠ pairRank m'.pair :=
    (perm.pairwise_iff Ne.symm).mpr (increase.imp ne_of_lt)
  have strict : (sort ms).Pairwise fun m m' => pairRank m.pair < pairRank m'.pair :=
    (rise.and distinct).imp fun both => lt_of_le_of_ne both.1 both.2
  exact perm.eq_of_pairwise (fun _ _ _ _ below above => absurd above below.not_gt) strict increase

end Meeting

end World

end RobotCombat
