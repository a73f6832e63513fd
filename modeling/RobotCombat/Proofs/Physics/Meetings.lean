/-
# RobotCombat.Proofs.Physics.Meetings — the meetings of a step, body by body

Each pass of a step finds its meetings in an order. Pairs of bodies are tried in the order
of their places (`met_increase`). A body meets the walls in their order, each at most once
and never at a negative speed (`met_of_walled`), and looks at the sensors one after the
other (`sensed_increase`). Put together for each body (`meetingsOf`) and then for all bodies
(`meetings`), the meetings of the three passes rise in rank, and so they are what a step gets
when it sorts what it found (`sort_found`).

* `step_contacts`: the contacts of a step are its meetings, body by body.
-/
import Mathlib.Data.List.Perm.Basic
import RobotCombat.Proofs.Number.Order
import RobotCombat.Proofs.Physics.Bodies
import RobotCombat.Proofs.Physics.Order

namespace RobotCombat

set_option autoImplicit false

open Number

/-- The parts of a list that belong to the places below a bound are all of it that belongs
there. -/
theorem flatMap_filter_perm {α : Type} (owner : α → Nat) (xs : List α) (count : Nat) :
    ((List.range count).flatMap fun i => xs.filter (fun x => owner x = i)).Perm
      (xs.filter fun x => owner x < count) := by
  induction count with
  | zero => simp
  | succ count ih =>
      have below : (xs.filter fun x => owner x < count + 1).filter (fun x => owner x < count) =
          xs.filter fun x => owner x < count := by
        rw [List.filter_filter]
        exact List.filter_congr fun x _ => by grind
      have here : (xs.filter fun x => owner x < count + 1).filter
          (fun x => !decide (owner x < count)) = xs.filter fun x => owner x = count := by
        rw [List.filter_filter]
        exact List.filter_congr fun x _ => by grind
      have parts := List.filter_append_perm (fun x => decide (owner x < count))
        (xs.filter fun x => owner x < count + 1)
      rw [below, here] at parts
      rw [List.range_succ, List.flatMap_append, List.flatMap_singleton]
      exact (ih.append_right _).trans parts

namespace World

variable {w : World} {dtMs : Float32}

/-! ## Bodies and bodies -/

theorem mem_placePairs {count i j : Nat} : (i, j) ∈ placePairs count ↔ i < j ∧ j < count := by
  simp only [placePairs, List.mem_flatMap, List.mem_range, List.mem_map, Prod.mk.injEq]
  constructor
  · rintro ⟨i, inside, k, below, rfl, rfl⟩
    omega
  · rintro ⟨lower, inside⟩
    exact ⟨i, by omega, j - (i + 1), by omega, rfl, by omega⟩

theorem mem_meetPairs {p : PhysicsSettings} {m : Meeting} :
    ∀ {pairs : List (Nat × Nat)} {bodies : List Body}, m ∈ (meetPairs p bodies pairs).2 →
      ∃ j, m.other = .body j ∧ (m.body, j) ∈ pairs
  | [], _, member => by cases member
  | pair :: pairs, bodies, member => by
      have member : m ∈ (meetPair p bodies pair).2.toList ++
          (meetPairs p (meetPair p bodies pair).1 pairs).2 := member
      rcases List.mem_append.mp member with here | later
      · unfold meetPair at here
        split at here
        · split at here
          · rename_i speed _
            obtain rfl : m = ⟨pair.1, .body pair.2, speed⟩ := by simpa using here
            exact ⟨pair.2, rfl, List.mem_cons_self⟩
          · cases here
        · cases here
      · obtain ⟨j, other, listed⟩ := mem_meetPairs later
        exact ⟨j, other, List.mem_cons_of_mem _ listed⟩

theorem mem_met {m : Meeting} (member : m ∈ (w.met dtMs).2) :
    ∃ j, m.other = .body j ∧ m.body < j ∧ j < w.bodies.length := by
  obtain ⟨j, other, listed⟩ := mem_meetPairs member
  rw [List.length_map, mem_placePairs] at listed
  exact ⟨j, other, listed⟩

theorem isBody_of_mem_met {m : Meeting} (member : m ∈ (w.met dtMs).2) :
    m.other.isBody = true := by
  obtain ⟨j, other, -⟩ := mem_met member
  rw [other]
  rfl

theorem length_meetPairs_le (p : PhysicsSettings) :
    ∀ (pairs : List (Nat × Nat)) (bodies : List Body),
      (meetPairs p bodies pairs).2.length ≤ pairs.length
  | [], _ => Nat.le_refl 0
  | pair :: pairs, bodies => by
      have later := length_meetPairs_le p pairs (meetPair p bodies pair).1
      have split : (meetPairs p bodies (pair :: pairs)).2 = (meetPair p bodies pair).2.toList ++
          (meetPairs p (meetPair p bodies pair).1 pairs).2 := rfl
      rw [split, List.length_append, List.length_cons]
      have one : (meetPair p bodies pair).2.toList.length ≤ 1 := by
        cases (meetPair p bodies pair).2 <;> simp
      omega

/-- Bodies meet in the order of the pairs of places that are tried. -/
theorem meetPairs_pairs (p : PhysicsSettings) :
    ∀ (pairs : List (Nat × Nat)) (bodies : List Body),
      ((meetPairs p bodies pairs).2.map Meeting.pair).Sublist
        (pairs.map fun q => (q.1, .body q.2))
  | [], _ => .slnil
  | pair :: pairs, bodies => by
      have split : (meetPairs p bodies (pair :: pairs)).2 = (meetPair p bodies pair).2.toList ++
          (meetPairs p (meetPair p bodies pair).1 pairs).2 := rfl
      have later := meetPairs_pairs p pairs (meetPair p bodies pair).1
      rw [split, List.map_append, List.map_cons]
      cases met : (meetPair p bodies pair).2 with
      | none => exact later.cons _
      | some m =>
          have named : m.pair = (pair.1, .body pair.2) := by
            unfold meetPair at met
            split at met
            · split at met
              · obtain rfl := Option.some.inj met
                rfl
              · cases met
            · cases met
          show (m.pair :: (meetPairs p _ pairs).2.map Meeting.pair).Sublist _
          rw [named]
          exact later.cons_cons _

/-- Places are tried in rising order. -/
theorem placePairs_increase (count : Nat) :
    ((placePairs count).map fun q => (q.1, Touched.body q.2)).Pairwise
      fun x y => pairRank x < pairRank y := by
  rw [List.pairwise_map, placePairs, List.pairwise_flatMap]
  constructor
  · intro i _
    rw [List.pairwise_map]
    refine List.pairwise_lt_range.imp fun below => ?_
    exact pairRank_lt_iff.mpr (Prod.Lex.toLex_lt_toLex.mpr (.inr ⟨rfl, by omega⟩))
  · refine List.pairwise_lt_range.imp fun below x member y member' => ?_
    obtain ⟨k, -, rfl⟩ := List.mem_map.mp member
    obtain ⟨k', -, rfl⟩ := List.mem_map.mp member'
    exact pairRank_lt_of_body below _ _

theorem met_increase (w : World) (dtMs : Float32) :
    (w.met dtMs).2.Pairwise fun m m' => pairRank m.pair < pairRank m'.pair := by
  let advanced := w.bodies.map (·.advance w.settings (dtMs / tickMs))
  have tried := meetPairs_pairs w.settings (placePairs advanced.length) advanced
  have increase := (placePairs_increase advanced.length).sublist tried
  rw [List.pairwise_map] at increase
  exact increase

end World

/-! ## Bodies and walls -/

namespace Body

variable {p : PhysicsSettings} {bounds : Bounds}

theorem collideWall?_speed {side : WallSide} {b b' : Body} {impact : Float32}
    (met : b.collideWall? p bounds side = some (b', impact)) : 0 ≤ impact := by
  unfold collideWall? at met
  dsimp only at met
  split at met
  · cases met
  · simp only [Option.some.injEq, Prod.mk.injEq] at met
    obtain ⟨-, rfl⟩ := met
    exact zero_le_larger _

/-- A body meets each of the walls at most once, in their order, and runs into it. -/
theorem collideWalls_met (b : Body) (sides : List WallSide) :
    ((b.collideWalls p bounds sides).2.map (·.1)).Sublist sides ∧
      ∀ met ∈ (b.collideWalls p bounds sides).2, 0 ≤ met.2 := by
  induction sides generalizing b with
  | nil => exact ⟨.refl _, nofun⟩
  | cons side sides ih =>
      rw [collideWalls]
      cases met : b.collideWall? p bounds side with
      | none => exact ⟨(ih b).1.cons side, (ih b).2⟩
      | some result =>
          obtain ⟨listed, speeds⟩ := ih result.1
          refine ⟨listed.cons_cons side, ?_⟩
          intro wall member
          rcases List.mem_cons.mp member with rfl | later
          · exact collideWall?_speed met
          · exact speeds wall later

end Body

namespace World

variable {w : World} {dtMs : Float32}

theorem met_of_walled {place : Nat} {after : Body × List (WallSide × Float32)}
    (walled : (w.walled dtMs)[place]? = some after) :
    (after.2.map (·.1)).Sublist WallSide.all ∧ ∀ met ∈ after.2, 0 ≤ met.2 := by
  unfold World.walled at walled
  rw [List.getElem?_map] at walled
  obtain ⟨b, -, rfl⟩ := Option.map_eq_some_iff.mp walled
  exact b.collideWalls_met WallSide.all

theorem walls_increase : WallSide.all.Pairwise fun s s' =>
    (Touched.wall s).rank < (Touched.wall s').rank := by decide

/-! ## Bodies and sensors -/

theorem mem_sensed_iff {b : Body} {sensors : List Sensor} {place k : Nat} :
    k ∈ sensed b place sensors ↔
      ∃ i s, k = place + i ∧ sensors[i]? = some s ∧
        s.overlaps b.motion.position b.radius = true := by
  induction sensors generalizing place with
  | nil => simp [sensed]
  | cons s sensors ih =>
      have split : k ∈ sensed b place (s :: sensors) ↔
          (k = place ∧ s.overlaps b.motion.position b.radius = true) ∨
            k ∈ sensed b (place + 1) sensors := by
        by_cases reached : s.overlaps b.motion.position b.radius = true <;>
          simp [sensed, reached]
      rw [split, ih]
      constructor
      · rintro (⟨rfl, reached⟩ | ⟨i, s', rfl, lookup, reached⟩)
        · exact ⟨0, s, rfl, rfl, reached⟩
        · exact ⟨i + 1, s', by omega, lookup, reached⟩
      · rintro ⟨i, s', rfl, lookup, reached⟩
        cases i with
        | zero =>
            obtain rfl : s = s' := by simpa using lookup
            exact .inl ⟨rfl, reached⟩
        | succ i => exact .inr ⟨i, s', by omega, by simpa using lookup, reached⟩

theorem sensed_increase (b : Body) :
    ∀ (sensors : List Sensor) (place : Nat), (sensed b place sensors).Pairwise (· < ·)
  | [], _ => .nil
  | s :: sensors, place => by
      have later := sensed_increase b sensors (place + 1)
      rw [sensed]
      split
      · refine List.pairwise_cons.mpr ⟨fun i member => ?_, later⟩
        obtain ⟨k, -, rfl, -⟩ := mem_sensed_iff.mp member
        omega
      · exact later

/-- What is done for each sensor that a body reaches is done for each of the things the
sensors stand for, in their order. -/
theorem sensed_flatMap {α β : Type} (rectangle : α → Sensor) (f : α → List β) (b : Body)
    (xs : List α) :
    ∀ before : List α,
      (sensed b before.length (xs.map rectangle)).flatMap
          (fun i => ((before ++ xs)[i]?.map f).getD []) =
        (xs.filter fun x => (rectangle x).overlaps b.motion.position b.radius).flatMap f := by
  induction xs with
  | nil => exact fun _ => rfl
  | cons x xs ih =>
      intro before
      have later := ih (before ++ [x])
      rw [List.length_append, List.length_singleton, List.append_assoc, List.singleton_append]
        at later
      rw [List.map_cons, sensed]
      by_cases reached : (rectangle x).overlaps b.motion.position b.radius = true
      · rw [if_pos reached, List.filter_cons_of_pos (by simpa using reached), List.flatMap_cons,
          List.flatMap_cons, later]
        simp
      · rw [if_neg reached, List.filter_cons_of_neg (by simpa using reached), later]

/-! ## The meetings of one body -/

/-- The meetings of one body: with other bodies, walls and sensors. -/
def meetingsOf (sensors : List Sensor) (pairs : List Meeting) (place : Nat)
    (after : Body × List (WallSide × Float32)) : List Meeting :=
  pairs.filter (fun m => m.body = place)
    ++ after.2.map (fun met => ⟨place, .wall met.1, met.2⟩)
    ++ (sensed after.1 0 sensors).map fun s => ⟨place, .sensor s, after.1.motion.velocity.length⟩

theorem body_of_meetingsOf {sensors : List Sensor} {pairs : List Meeting} {place : Nat}
    {after : Body × List (WallSide × Float32)} {m : Meeting}
    (member : m ∈ meetingsOf sensors pairs place after) : m.body = place := by
  simp only [meetingsOf, List.mem_append, List.mem_filter, List.mem_map] at member
  rcases member with (⟨-, paired⟩ | ⟨met, -, rfl⟩) | ⟨s, -, rfl⟩
  · simpa using paired
  · rfl
  · rfl

/-- The meetings of one body: others before walls before sensors, and each kind in its
order. -/
theorem meetingsOf_increase {sensors : List Sensor} {pairs : List Meeting} {place : Nat}
    {after : Body × List (WallSide × Float32)}
    (paired : ∀ m ∈ pairs, m.other.isBody = true)
    (increase : pairs.Pairwise fun m m' => pairRank m.pair < pairRank m'.pair)
    (sides : (after.2.map (·.1)).Sublist WallSide.all) :
    (meetingsOf sensors pairs place after).Pairwise
      fun m m' => pairRank m.pair < pairRank m'.pair := by
  have others : ∀ m ∈ pairs.filter (·.body = place), ∃ j, m.pair = (place, .body j) := by
    intro m member
    obtain ⟨listed, here⟩ := List.mem_filter.mp member
    have body := paired m listed
    obtain ⟨i, other, speed⟩ := m
    obtain rfl : i = place := by simpa using here
    cases other with
    | body j => exact ⟨j, rfl⟩
    | wall side => cases body
    | sensor i => cases body
  unfold meetingsOf
  rw [List.pairwise_append, List.pairwise_append]
  refine ⟨⟨increase.sublist List.filter_sublist, ?_, ?_⟩, ?_, ?_⟩
  · have walls := walls_increase.sublist sides
    rw [List.pairwise_map] at walls ⊢
    exact walls.imp fun before => pairRank_lt_iff.mpr before
  · intro m member m' member'
    obtain ⟨j, named⟩ := others m member
    obtain ⟨wall, -, rfl⟩ := List.mem_map.mp member'
    rw [named]
    exact pairRank_lt_iff.mpr (Prod.Lex.toLex_lt_toLex.mpr (.inl Nat.zero_lt_one))
  · rw [List.pairwise_map]
    refine (sensed_increase after.1 sensors 0).imp fun below => pairRank_lt_iff.mpr ?_
    exact Prod.Lex.toLex_lt_toLex.mpr (.inr ⟨rfl, below⟩)
  · intro m member m' member'
    obtain ⟨i, -, rfl⟩ := List.mem_map.mp member'
    rcases List.mem_append.mp member with other | wall
    · obtain ⟨j, named⟩ := others m other
      rw [named]
      exact pairRank_lt_iff.mpr (Prod.Lex.toLex_lt_toLex.mpr (.inl Nat.zero_lt_two))
    · obtain ⟨wall, -, rfl⟩ := List.mem_map.mp wall
      exact pairRank_lt_iff.mpr (Prod.Lex.toLex_lt_toLex.mpr (.inl Nat.one_lt_two))

/-! ## All meetings of a step -/

/-- The meetings of a step, body by body. -/
def meetings (w : World) (dtMs : Float32) : List Meeting :=
  (w.walled dtMs).zipIdx.flatMap fun after =>
    meetingsOf w.sensors (w.met dtMs).2 after.2 after.1

/-- Body by body the meetings rise in rank. -/
theorem meetings_increase (w : World) (dtMs : Float32) :
    (w.meetings dtMs).Pairwise fun m m' => pairRank m.pair < pairRank m'.pair := by
  rw [meetings, List.pairwise_flatMap]
  constructor
  · rintro ⟨after, place⟩ member
    have walled := List.mem_zipIdx_iff_getElem?.mp member
    exact meetingsOf_increase (fun _ => isBody_of_mem_met) (w.met_increase dtMs)
      (met_of_walled walled).1
  · have places : (w.walled dtMs).zipIdx.Pairwise fun x y => x.2 < y.2 := by
      have numbers := List.pairwise_lt_range' (s := 0) (n := (w.walled dtMs).length)
      rw [← List.zipIdx_map_snd] at numbers
      exact List.pairwise_map.mp numbers
    refine places.imp fun below m member m' member' => ?_
    have here : m.body = _ := body_of_meetingsOf member
    have there : m'.body = _ := body_of_meetingsOf member'
    refine pairRank_lt_of_body ?_ _ _
    show m.body < m'.body
    rw [here, there]
    exact below

/-- The meetings between bodies fall into those of each body. -/
theorem met_by_body (w : World) (dtMs : Float32) :
    (w.met dtMs).2.Perm
      ((w.walled dtMs).zipIdx.flatMap fun after => (w.met dtMs).2.filter (·.body = after.2)) := by
  have inside : (w.met dtMs).2.filter (fun m => m.body < (w.walled dtMs).length) =
      (w.met dtMs).2 := by
    refine List.filter_eq_self.mpr fun m member => ?_
    obtain ⟨j, -, below, inside⟩ := mem_met member
    rw [length_walled, decide_eq_true_eq]
    omega
  have parts := flatMap_filter_perm Meeting.body (w.met dtMs).2 (w.walled dtMs).length
  rw [inside, List.range_eq_range', ← List.zipIdx_map_snd, List.flatMap_map] at parts
  exact parts.symm

/-- The three passes of a step, the last two going body by body. -/
theorem found_eq (w : World) (dtMs : Float32) :
    w.found dtMs = (w.met dtMs).2
      ++ (w.walled dtMs).zipIdx.flatMap (fun after =>
        after.1.2.map fun met => ⟨after.2, .wall met.1, met.2⟩)
      ++ (w.walled dtMs).zipIdx.flatMap (fun after =>
        (sensed after.1.1 0 w.sensors).map fun s =>
          ⟨after.2, .sensor s, after.1.1.motion.velocity.length⟩) := by
  have sensors : meetSensors w.sensors ((w.walled dtMs).map (·.1)) =
      (w.walled dtMs).zipIdx.flatMap fun after =>
        (sensed after.1.1 0 w.sensors).map fun s =>
          ⟨after.2, .sensor s, after.1.1.motion.velocity.length⟩ := by
    rw [meetSensors, List.zipIdx_map, List.flatMap_map]
    rfl
  rw [← sensors]
  rfl

/-- What a step finds are its meetings, in another order. -/
theorem found_perm (w : World) (dtMs : Float32) :
    (w.found dtMs).Perm (w.meetings dtMs) := by
  have others := w.met_by_body dtMs
  rw [found_eq]
  refine ((others.append_right _).append_right _).trans ?_
  refine ((List.flatMap_append_perm _ _ _).append_right _).trans ?_
  exact List.flatMap_append_perm _ _ _

/-- Of what a step finds, the first pass found what is between bodies. -/
theorem found_isBody (w : World) (dtMs : Float32) :
    (w.found dtMs).filter (·.other.isBody) = (w.met dtMs).2 := by
  have kept : (w.met dtMs).2.filter (·.other.isBody) = (w.met dtMs).2 :=
    List.filter_eq_self.mpr fun _ => isBody_of_mem_met
  have noWall : (meetWalls w.settings w.bounds (w.met dtMs).1).2.filter (·.other.isBody) = [] := by
    refine List.filter_eq_nil_iff.mpr fun m member => ?_
    obtain ⟨after, -, wall⟩ := List.mem_flatMap.mp member
    obtain ⟨met, -, rfl⟩ := List.mem_map.mp wall
    nofun
  have noSensor : ∀ bodies, (meetSensors w.sensors bodies).filter (·.other.isBody) = [] := by
    intro bodies
    refine List.filter_eq_nil_iff.mpr fun m member => ?_
    obtain ⟨b, -, reached⟩ := List.mem_flatMap.mp member
    obtain ⟨s, -, rfl⟩ := List.mem_map.mp reached
    nofun
  unfold found
  rw [List.filter_append, List.filter_append, kept, noWall, noSensor]
  simp

/-- What a step finds and sorts are its meetings, body by body. -/
theorem sort_found (w : World) (dtMs : Float32) :
    Meeting.sort (w.found dtMs) = w.meetings dtMs :=
  Meeting.sort_eq (w.found_perm dtMs) (w.meetings_increase dtMs)

/-- The contacts of a step, body by body. -/
theorem step_contacts :
    (w.step dtMs).contacts = (w.meetings dtMs).map (Meeting.toContact w.touching) := by
  rw [step_eq, sort_found]

end World

end RobotCombat
