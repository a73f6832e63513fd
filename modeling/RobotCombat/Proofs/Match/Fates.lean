/-
# RobotCombat.Proofs.Match.Fates — what a tick does to the fighter at a place

The deeds of a tick are those of its contacts among the states that it began with. What
becomes of a fighter is what the deeds at its place make of the state that moved along
with its body, before its weapons cool down: `Placed.ruling_holds`, `Placed.tickOnce_state`.

* `Placed.isNew_iff`: a contact is new exactly if its pair did not touch after the tick before;
* `mem_damageLog`: all damage in the log is that of a tick.
-/
import RobotCombat.Proofs.Damage.Encounter
import RobotCombat.Proofs.Match.Zones

namespace RobotCombat

set_option autoImplicit false

/-- States that each carry the id of their entrant. -/
theorem Roster.Each.ids {r : Roster} {P : Entrant → FighterState → Prop}
    {states : List FighterState} (all : r.Each P states) (id : ∀ {e s}, P e s → s.id = e.id) :
    states.map (·.id) = r.entrants.map Entrant.id := by
  have length : states.length = r.entrants.length := all.length
  refine List.ext_getElem (by simpa using length) fun place inside inside' => ?_
  rw [List.length_map] at inside inside'
  have entered : r.get? place = some r.entrants[place] := List.getElem?_eq_getElem inside'
  rw [List.getElem_map, List.getElem_map]
  exact id (all.holds entered (List.getElem?_eq_getElem inside))

namespace Battle

/-- The deeds of the next tick. -/
def deeds (b : Battle) : List (Nat × Deed) :=
  Ruling.deeds b.scene b.states b.nextWorld.contacts

/-- Whether the fighter at a place is alive. -/
def Alive (b : Battle) (place : Nat) : Prop :=
  ∃ s, b.states[place]? = some s ∧ s.isAlive = true

variable {r : Roster} {a : Arena} {b : Battle} {place : Nat} {e : Entrant} {s : FighterState}

theorem steps_placed (entered : r.Entered) (a : Arena) (c : MatchConfig) (n : Nat) :
    (steps n (start r a c)).Placed r a :=
  steps_invariant (P := fun b => b.Placed r a) (fun _ _ placed => placed.tickOnce entered) n
    (start_placed r a c)

/-- There is a state at the place of each entrant, under its id. -/
theorem Placed.state (placed : b.Placed r a) (lookup : r.get? place = some e) :
    ∃ s, b.states[place]? = some s ∧ s.id = e.id := by
  have inside : place < r.size := (List.getElem?_eq_some_iff.mp lookup).1
  have state := List.getElem?_eq_getElem (placed.fighters.length.symm ▸ inside)
  exact ⟨_, state, (placed.fighters.holds lookup state).id⟩

/-- Who stands at a place alive when a tick begins. -/
theorem Placed.living?_eq_some_iff (placed : b.Placed r a) :
    b.scene.living? b.states place = some (e, s) ↔
      r.get? place = some e ∧ b.states[place]? = some s ∧ s.isAlive = true := by
  rw [Scene.living?_eq_some_iff, ← placed.roster]
  rfl

theorem Placed.living_iff_alive (placed : b.Placed r a) (place : Nat) :
    (b.scene.living? b.states place).isSome = true ↔ b.Alive place := by
  rw [Option.isSome_iff_exists]
  constructor
  · rintro ⟨⟨e, s⟩, living⟩
    obtain ⟨-, state, alive⟩ := placed.living?_eq_some_iff.mp living
    exact ⟨s, state, alive⟩
  · rintro ⟨s, state, alive⟩
    obtain ⟨e, lookup, -⟩ := placed.fighters.entrant state
    exact ⟨(e, s), placed.living?_eq_some_iff.mpr ⟨lookup, state, alive⟩⟩

/-- Fighters move under the ids of their entrants. -/
theorem Placed.moved_ids (placed : b.Placed r a) :
    b.moved.map (·.id) = b.scene.roster.entrants.map Entrant.id := by
  obtain ⟨rfl, -, -, -, -, fighters⟩ := placed
  have carries : b.roster.Each (fun e s => s.id = e.id) b.moved := by
    refine fighters.mapPlaces _ ?_
    intro place e s _ marked
    exact (carried_keeps b.nextWorld b.intents s place).1.trans marked.id
  exact carries.ids id

theorem moved_of_state (state : b.states[place]? = some s) :
    b.moved[place]? = some (carried b.nextWorld b.intents s place) := by
  unfold moved
  rw [List.getElem?_map, List.getElem?_zipIdx, state, Nat.zero_add]
  rfl

/-- The events of a tick are against entrants and carry the time at its end. -/
theorem Placed.told (placed : b.Placed r a) {event : DamageEvent}
    (member : event ∈ b.ruling.damage) :
    (∃ place e, r.get? place = some e ∧ event.target = e.id) ∧
      event.timestamp = b.config.timeAt (b.tick + 1) := by
  have told := Ruling.ofContacts_told placed.moved_ids member
  rw [← placed.roster]
  exact told

/-- The fate of a fighter in a tick. -/
theorem Placed.ruling_holds (placed : b.Placed r a) (entered : r.Entered)
    (lookup : r.get? place = some e) (state : b.states[place]? = some s) :
    b.ruling.Holds place e
      (endure b.scene.timestamp e (carried b.nextWorld b.intents s place)
        (entriesAt place b.deeds)) := by
  have ids := placed.moved_ids
  obtain ⟨rfl, -, -, -, -, -⟩ := placed
  exact Ruling.ofContacts_holds entered.distinct ids b.nextWorld.contacts lookup
    (moved_of_state state)

/-- In a tick that is scored every fighter's fate is. -/
theorem Placed.scored (placed : b.Placed r a) (lookup : r.get? place = some e)
    (state : b.states[place]? = some s) (scored : b.tickOnce.unscorable = false) :
    (endure b.scene.timestamp e (carried b.nextWorld b.intents s place)
      (entriesAt place b.deeds)).unscorable = false := by
  have named : (Ruling.start b.moved).Named b.scene := placed.moved_ids
  have full : b.moved.length = b.scene.roster.size := named.full
  have ruled : b.ruling.unscorable = false := by
    rw [tickOnce_eq] at scored
    exact (Bool.or_eq_false_iff.mp scored).2
  obtain ⟨rfl, -, -, -, -, -⟩ := placed
  by_contra unscored
  have unscored : (Ruling.start b.moved).Unscored b.scene b.deeds place :=
    ⟨e, _, lookup, moved_of_state state, by simpa using unscored⟩
  have reached := (Ruling.unscorable_performAll b.deeds named.full).mpr (.inr ⟨place, unscored⟩)
  rw [deeds, ← Ruling.ofContacts_eq_perform full] at reached
  rw [ruling, reached] at ruled
  cases ruled

/-- The state after a tick is that fate's, cooled down. -/
theorem Placed.tickOnce_state (placed : b.Placed r a) (entered : r.Entered)
    (lookup : r.get? place = some e) (state : b.states[place]? = some s) :
    b.tickOnce.states[place]? =
      some ((endure b.scene.timestamp e (carried b.nextWorld b.intents s place)
        (entriesAt place b.deeds)).state.cool b.config.tickMs) := by
  rw [tickOnce_states, settled, List.getElem?_map,
    (placed.ruling_holds entered lookup state).state]
  rfl

/-! ## Contacts and damage from tick to tick -/

theorem contacts_driven (b : Battle) (intents : List Intent) :
    (b.driven intents).contacts = b.world.contacts :=
  b.driven_keeps (·.contacts) (fun _ _ _ => rfl) (fun _ _ _ => rfl) intents

theorem touching_driven (b : Battle) (intents : List Intent) :
    (b.driven intents).touching = b.world.touching :=
  b.driven_keeps (·.touching) (fun _ _ _ => rfl) (fun _ _ _ => rfl) intents

theorem length_driven (b : Battle) (intents : List Intent) :
    (b.driven intents).bodies.length = b.world.bodies.length :=
  b.driven_keeps (·.bodies.length) World.length_push World.length_spin intents

/-- A contact is new exactly if its pair did not touch after the tick before. -/
theorem Placed.isNew_iff (placed : b.Placed r a) {c : Contact}
    (member : c ∈ b.nextWorld.contacts) :
    c.isNew = true ↔ ∀ before ∈ b.world.contacts, before.pair ≠ c.pair := by
  have tracked : (b.driven b.intents).Tracked := by
    intro pair
    rw [contacts_driven, touching_driven]
    exact placed.tracked pair
  rw [World.isNew_iff tracked member, contacts_driven]

theorem tickOnce_lastDamage (b : Battle) : b.tickOnce.lastDamage = b.ruling.damage := by
  rw [tickOnce_eq]

/-- A match that goes on after some steps went on before. -/
theorem going_before {i j : Nat} (earlier : i ≤ j) (going : (steps j b).isFinished = false) :
    (steps i b).isFinished = false := by
  obtain ⟨k, rfl⟩ := Nat.exists_eq_add_of_le earlier
  by_contra ended
  have stopped : (steps i b).isFinished = true := by simpa using ended
  rw [steps_add, steps_of_isFinished stopped, stopped] at going
  cases going

/-- All damage in the log was there at the start or is that of a tick. -/
theorem mem_damageLog {n : Nat} {event : DamageEvent}
    (member : event ∈ (steps n b).damageLog.toList) :
    event ∈ b.damageLog.toList ∨
      ∃ k, k < n ∧ (steps k b).isFinished = false ∧ event ∈ (steps k b).ruling.damage := by
  induction n with
  | zero => exact .inl member
  | succ n ih =>
      have earlier : event ∈ (steps n b).damageLog.toList →
          event ∈ b.damageLog.toList ∨ ∃ k, k < n + 1 ∧ (steps k b).isFinished = false ∧
            event ∈ (steps k b).ruling.damage := by
        intro member
        rcases ih member with before | ⟨k, below, going, dealt⟩
        · exact .inl before
        · exact .inr ⟨k, by omega, going, dealt⟩
      rw [steps_succ] at member
      cases going : (steps n b).isFinished with
      | true =>
          rw [step_of_isFinished going] at member
          exact earlier member
      | false =>
          rw [step_of_not_isFinished going, tickOnce_log] at member
          rcases List.mem_append.mp member with before | now
          · exact earlier before
          · exact .inr ⟨n, Nat.lt_succ_self n, going, now⟩

end Battle

end RobotCombat
