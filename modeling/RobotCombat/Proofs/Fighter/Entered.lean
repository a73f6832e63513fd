/-
# RobotCombat.Proofs.Fighter.Entered — rosters, and what holds place by place

A roster is `Entered` when every fighter in it was accepted by `Roster.add`. Such a
roster has at most two fighters, no id stands in it twice (`Entered.place_of_id`),
and the stats of an entrant are those of its loadout (`Entered.formed`).

`Roster.Each` says that a list of states stands in roster order and that a
property holds of every entrant and the state in its place. Its lemmas carry such
a property through the ways in which a tick rewrites the list. `duel` is a roster
from the stock catalog to try such properties on.
-/
import RobotCombat.Catalog.Stock
import RobotCombat.Proofs.Fighter.Health

namespace RobotCombat

set_option autoImplicit false

namespace Roster

/-- Where no id stands twice it names one place. -/
theorem place_of_distinct {r : Roster} (distinct : (r.entrants.map Entrant.id).Nodup) {i j : Nat}
    {e e' : Entrant} (first : r.get? i = some e) (second : r.get? j = some e')
    (same : e.id = e'.id) : i = j := by
  unfold Roster.get? at first second
  have left : (r.entrants.map Entrant.id)[i]? = some e.id := by
    rw [List.getElem?_map, first]
    rfl
  have right : (r.entrants.map Entrant.id)[j]? = some e.id := by
    rw [List.getElem?_map, second, same]
    rfl
  obtain ⟨inside, -⟩ := List.getElem?_eq_some_iff.mp left
  exact (List.getElem?_inj inside distinct).mp (left.trans right.symm)

/-! ## Entering fighters -/

/-- A roster whose fighters were accepted one after the other. -/
inductive Entered : Roster → Prop
  | empty : Entered .empty
  | add {r r' : Roster} {b : Build} {spawn : Vector2} {c : Catalog} (entered : Entered r)
      (accepted : r.add b spawn c = .ok r') : Entered r'

theorem place?_eq_none_iff (r : Roster) (id : String) :
    r.place? id = none ↔ ∀ e ∈ r.entrants, e.id ≠ id := by
  unfold place?
  rw [List.findIdx?_eq_none_iff]
  simp

/-- A fighter is accepted exactly if there is room and its id is free. -/
theorem add_eq_ok_iff {r r' : Roster} {b : Build} {spawn : Vector2} {c : Catalog} :
    r.add b spawn c = .ok r' ↔
      r.size < capacity ∧ (∀ e ∈ r.entrants, e.id ≠ b.id) ∧
        r' = ⟨r.entrants ++ [.of b spawn c]⟩ := by
  unfold Roster.add
  by_cases full : capacity ≤ r.size
  · rw [if_pos full]
    simp [Nat.not_lt.mpr full]
  · rw [if_neg full, ← place?_eq_none_iff]
    cases taken : r.place? b.id with
    | some place => simp
    | none => simp [Nat.not_le.mp full, eq_comm]

namespace Entered

variable {r : Roster}

theorem size_le (entered : r.Entered) : r.size ≤ capacity := by
  induction entered with
  | empty => exact Nat.zero_le _
  | add _ accepted _ =>
      obtain ⟨room, -, rfl⟩ := add_eq_ok_iff.mp accepted
      unfold Roster.size at room ⊢
      rw [List.length_append]
      exact room

theorem distinct (entered : r.Entered) : (r.entrants.map Entrant.id).Nodup := by
  induction entered with
  | empty => exact List.nodup_nil
  | add _ accepted ih =>
      obtain ⟨-, free, rfl⟩ := add_eq_ok_iff.mp accepted
      rw [List.map_append, List.nodup_append]
      refine ⟨ih, List.nodup_singleton _, ?_⟩
      intro id present id' new same
      obtain ⟨e, member, rfl⟩ := List.mem_map.mp present
      obtain rfl := List.mem_singleton.mp new
      exact free e member same

/-- An id names one place of an entered roster. -/
theorem place_of_id (entered : r.Entered) {i j : Nat} {e e' : Entrant}
    (first : r.get? i = some e) (second : r.get? j = some e') (same : e.id = e'.id) : i = j :=
  place_of_distinct entered.distinct first second same

theorem formed (entered : r.Entered) {place : Nat} {e : Entrant} (lookup : r.get? place = some e) :
    e.stats = e.loadout.stats := by
  have member : e ∈ r.entrants := List.mem_of_getElem? lookup
  clear lookup
  induction entered with
  | empty => cases member
  | add _ accepted ih =>
      obtain ⟨-, -, rfl⟩ := add_eq_ok_iff.mp accepted
      rcases List.mem_append.mp member with old | new
      · exact ih old
      · obtain rfl := List.mem_singleton.mp new
        rfl

end Entered

/-- A roster of healthy entrants. -/
def Healthy (r : Roster) : Prop :=
  ∀ {place : Nat} {e : Entrant}, r.get? place = some e → e.Healthy

/-! ## Place by place -/

/-- States in roster order with a property of every entrant and its state. -/
structure Each (r : Roster) (P : Entrant → FighterState → Prop) (states : List FighterState) :
    Prop where
  length : states.length = r.size
  holds : ∀ {place : Nat} {e : Entrant} {s : FighterState},
    r.get? place = some e → states[place]? = some s → P e s

variable {r : Roster} {P Q : Entrant → FighterState → Prop} {states : List FighterState}

/-- The entrant in the place of a state. -/
theorem Each.entrant (all : r.Each P states) {place : Nat} {s : FighterState}
    (lookup : states[place]? = some s) : ∃ e, r.get? place = some e ∧ P e s := by
  obtain ⟨inside, -⟩ := List.getElem?_eq_some_iff.mp lookup
  have entered : place < r.entrants.length := by
    have length : states.length = r.entrants.length := all.length
    exact length ▸ inside
  exact ⟨_, List.getElem?_eq_getElem entered, all.holds (List.getElem?_eq_getElem entered) lookup⟩

theorem Each.spawnStates (fresh : ∀ {place e}, r.get? place = some e → P e e.spawnState) :
    r.Each P r.spawnStates where
  length := List.length_map _
  holds := by
    intro place e s entered lookup
    unfold Roster.get? at entered
    unfold Roster.spawnStates at lookup
    rw [List.getElem?_map, entered, Option.map_some, Option.some.injEq] at lookup
    exact lookup ▸ fresh entered

/-- Every state is rewritten, with its place at hand. -/
theorem Each.mapPlaces (all : r.Each P states) (f : FighterState → Nat → FighterState)
    (keeps : ∀ {place e s}, r.get? place = some e → P e s → Q e (f s place)) :
    r.Each Q (states.zipIdx.map fun (s, place) => f s place) where
  length := by rw [List.length_map, List.length_zipIdx, all.length]
  holds := by
    intro place e s entered lookup
    rw [List.getElem?_map, List.getElem?_zipIdx, Nat.zero_add] at lookup
    cases before : states[place]? with
    | none => simp [before] at lookup
    | some old =>
        simp only [before, Option.map_some, Option.some.injEq] at lookup
        exact lookup ▸ keeps entered (all.holds entered before)

theorem Each.map (all : r.Each P states) (f : FighterState → FighterState)
    (keeps : ∀ {e s}, P e s → Q e (f s)) : r.Each Q (states.map f) where
  length := by rw [List.length_map, all.length]
  holds := by
    intro place e s entered lookup
    rw [List.getElem?_map] at lookup
    obtain ⟨old, before, rfl⟩ := Option.map_eq_some_iff.mp lookup
    exact keeps (all.holds entered before)

/-- One state is rewritten. -/
theorem Each.modify (all : r.Each P states) (place : Nat) {f : FighterState → FighterState}
    (keeps : ∀ {e s}, P e s → P e (f s)) : r.Each P (states.modify place f) where
  length := by rw [List.length_modify, all.length]
  holds := by
    intro other e s entered lookup
    rw [List.getElem?_modify] at lookup
    obtain ⟨old, before, after⟩ := Option.map_eq_some_iff.mp lookup
    have held : P e old := all.holds entered before
    by_cases here : place = other
    · rw [if_pos here] at after
      exact after ▸ keeps held
    · rw [if_neg here] at after
      exact after ▸ held

/-- One state is replaced, while the property may change for all. -/
theorem Each.set (all : r.Each P states) {place : Nat} {s' : FighterState}
    (here : ∀ {e}, r.get? place = some e → Q e s')
    (elsewhere : ∀ {other e s}, other ≠ place → r.get? other = some e → P e s → Q e s) :
    r.Each Q (states.set place s') where
  length := by rw [List.length_set, all.length]
  holds := by
    intro other e s entered lookup
    rw [List.getElem?_set] at lookup
    by_cases same : place = other
    · subst same
      rw [if_pos rfl] at lookup
      split at lookup
      · obtain rfl := Option.some.inj lookup
        exact here entered
      · cases lookup
    · rw [if_neg same] at lookup
      exact elsewhere (Ne.symm same) entered (all.holds entered lookup)

/-- States in roster order, each sound for its entrant. -/
abbrev Sound (r : Roster) (states : List FighterState) : Prop := r.Each FighterState.Sound states

/-! ## A roster from the stock catalog -/

/-- A light fighter with a saw; the catalog does not know its second weapon. -/
def sawyer : Build :=
  { Build.bare "sawyer" "scout" .usual with
    weaponIds := ["buzzSaw", "lance"], armorId := some "basicPlating" }

/-- A heavy fighter with a hammer and a wedge. -/
def smith : Build :=
  { Build.bare "smith" "tank" .usual with weaponIds := ["spikeHammer", "basicWedge"] }

/-- The two of them on opposite sides. -/
def duel : Roster := ⟨[.of sawyer ⟨200, 300⟩ .stock, .of smith ⟨600, 300⟩ .stock]⟩

theorem duel_entered : duel.Entered :=
  have first := @Entered.add .empty _ sawyer ⟨200, 300⟩ .stock .empty rfl
  @Entered.add _ duel smith ⟨600, 300⟩ .stock first rfl

theorem duel_healthy : duel.Healthy := by
  intro place e lookup
  have member : e ∈ duel.entrants := List.mem_of_getElem? lookup
  rcases List.mem_cons.mp member with rfl | rest
  · exact ⟨by decide, by decide⟩
  · obtain rfl := List.mem_singleton.mp rest
    exact ⟨by decide, by decide⟩

/-- The two of them at arm's length. -/
def clinch : Roster := ⟨[.of sawyer ⟨390, 300⟩ .stock, .of smith ⟨410, 300⟩ .stock]⟩

theorem clinch_entered : clinch.Entered :=
  have first := @Entered.add .empty _ sawyer ⟨390, 300⟩ .stock .empty rfl
  @Entered.add _ clinch smith ⟨410, 300⟩ .stock first rfl

theorem clinch_healthy : clinch.Healthy := by
  intro place e lookup
  have member : e ∈ clinch.entrants := List.mem_of_getElem? lookup
  rcases List.mem_cons.mp member with rfl | rest
  · exact ⟨by decide, by decide⟩
  · obtain rfl := List.mem_singleton.mp rest
    exact ⟨by decide, by decide⟩

end Roster

end RobotCombat
