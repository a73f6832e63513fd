/-
# RobotCombat.Proofs.Match.Zones — the marks after a tick tell where a fighter is

After a tick a fighter stands where its body ended up, with the marks of that very
place: nobody lives in a pit, and the spike mark goes with the reach of a spike zone.
Two fighters are marked in contact together or not at all, and the fall mark goes with
one event in the damage log (`marks_after_tick`). What a tick needs for that and keeps
is `Placed`: sensors stand for hazards, place by place, radii are those of the entrants,
what touched last is what the contacts say, and falls are accounted for.
-/
import RobotCombat.Proofs.Damage.Marks
import RobotCombat.Proofs.Match.Alignment
import RobotCombat.Proofs.Physics.Contacts

namespace RobotCombat

set_option autoImplicit false

open Number

/-- Whether a circle reaches a zone of a kind. -/
def Arena.InZone (a : Arena) (kind : HazardKind) (center : Vector2) (radius : Float32) : Prop :=
  ∃ h ∈ a.hazards, h.kind = kind ∧ (Sensor.around h.position h.size).overlaps center radius = true

theorem Contact.enters_iff {c : Contact} {a : Arena} {kind : HazardKind} {place : Nat} :
    c.enters a kind place = true ↔
      c.body = place ∧ ∃ i h, c.other = .sensor i ∧ a.hazards[i]? = some h ∧ h.kind = kind := by
  unfold enters zone?
  cases c.other <;> simp

theorem Contact.touches_iff {c : Contact} {place : Nat} :
    c.touches place = true ↔ ∃ other, c.other = .body other ∧ (c.body = place ∨ other = place) := by
  unfold touches
  cases c.other <;> simp

namespace Battle

/-- A match whose world stands for its arena and roster, with all falls accounted for. -/
structure Placed (r : Roster) (a : Arena) (b : Battle) : Prop where
  roster : b.roster = r
  arena : b.arena = a
  sensors : b.world.sensors = a.hazards.map fun h => .around h.position h.size
  radii : b.world.radii = r.entrants.map fun e => larger e.stats.radius 0
  tracked : b.world.Tracked
  fighters : r.Each (FighterState.Marked b.damageLog.toList) b.states

variable {r : Roster} {a : Arena} {b : Battle} {place : Nat}

theorem start_placed (r : Roster) (a : Arena) (c : MatchConfig) : (start r a c).Placed r a where
  roster := rfl
  arena := rfl
  sensors := foldl_keeps (fun (w : World) (e : Entrant) =>
    w.addBody e.spawn e.stats.radius e.stats.weight) (·.sensors) (fun _ _ => rfl) r.entrants _
  radii := by
    unfold World.radii
    rw [start_bodies, List.map_map]
    rfl
  tracked :=
    List.foldlRecOn r.entrants _ (World.tracked_ofArena a c.physics) fun _ tracked _ _ => tracked
  fighters := Roster.Each.spawnStates fun {_ e} _ => FighterState.marked_spawnState e

theorem sensors_driven (b : Battle) (intents : List Intent) :
    (b.driven intents).sensors = b.world.sensors :=
  b.driven_keeps (·.sensors) World.sensors_push World.sensors_spin intents

theorem sensors_nextWorld (b : Battle) : b.nextWorld.sensors = b.world.sensors := by
  unfold nextWorld
  rw [World.sensors_step, sensors_driven]

theorem radii_nextWorld (b : Battle) : b.nextWorld.radii = b.world.radii := by
  unfold nextWorld
  rw [World.radii_step]
  exact b.driven_keeps World.radii World.radii_push World.radii_spin b.intents

/-- A tick keeps the world in line with arena and roster, and the account of falls. -/
theorem Placed.tickOnce (entered : r.Entered) (placed : b.Placed r a) : b.tickOnce.Placed r a := by
  obtain ⟨rfl, rfl, sensors, radii, -, fighters⟩ := placed
  have known : b.scene.roster.Entered := entered
  have moved : b.scene.roster.Each (FighterState.Marked b.damageLog.toList) b.moved := by
    refine fighters.mapPlaces _ ?_
    intro place e s _ kept
    obtain ⟨id, hp, -, status, -⟩ := carried_keeps b.nextWorld b.intents s place
    exact kept.congr id hp (by unfold FighterState.isAlive; rw [status]; rfl) (by rw [status]; rfl)
  have ruled := Ruling.ofContacts_marked known b.damageLog.toList b.states b.nextWorld.contacts
    moved
  have settled : b.roster.Each
      (FighterState.Marked (b.damageLog.toList ++ b.ruling.damage)) b.settled :=
    ruled.map _ fun kept => kept.congr rfl rfl rfl rfl
  constructor
  · exact b.tickOnce_roster
  · exact b.tickOnce_arena
  · rw [tickOnce_world, sensors_nextWorld, sensors]
  · rw [tickOnce_world, radii_nextWorld, radii]
  · rw [tickOnce_world]
    exact World.tracked_step _ _
  · rw [tickOnce_states, tickOnce_log]
    exact settled

theorem Placed.length (placed : b.Placed r a) : b.world.bodies.length = r.size := by
  simpa [World.radii, Roster.size] using congrArg List.length placed.radii

/-! ## What the contacts of a tick report -/

/-- The contacts with zones are those that the bodies reach in the end. -/
theorem Placed.enters_iff_inZone (placed : b.Placed r a) {body : Body}
    (here : b.nextWorld.bodies[place]? = some body) (kind : HazardKind) :
    b.nextWorld.contacts.any (·.enters a kind place) = true ↔
      a.InZone kind body.motion.position body.radius := by
  have sensor : ∀ i : Nat, (b.driven b.intents).sensors[i]? =
      a.hazards[i]?.map fun h => .around h.position h.size := by
    intro i
    rw [← List.getElem?_map, ← placed.sensors, sensors_driven]
  rw [List.any_eq_true]
  constructor
  · rintro ⟨c, member, enters⟩
    obtain ⟨standing, i, h, other, hazard, same⟩ := Contact.enters_iff.mp enters
    obtain ⟨body', s, here', reached, overlaps⟩ :=
      World.sensor_contact_iff.mp ⟨c, member, standing, other⟩
    obtain rfl : body = body' := Option.some.inj (here.symm.trans here')
    obtain rfl : Sensor.around h.position h.size = s := by
      simpa [sensor, hazard] using reached
    exact ⟨h, List.mem_of_getElem? hazard, same, overlaps⟩
  · rintro ⟨h, member, same, overlaps⟩
    obtain ⟨i, hazard⟩ := List.mem_iff_getElem?.mp member
    have reached : (b.driven b.intents).sensors[i]? = some (.around h.position h.size) := by
      rw [sensor, hazard]
      rfl
    obtain ⟨c, listed, standing, other⟩ :=
      World.sensor_contact_iff.mpr ⟨body, _, here, reached, overlaps⟩
    exact ⟨c, listed, Contact.enters_iff.mpr ⟨standing, i, h, other, hazard, same⟩⟩

/-- Of two bodies each takes part in every contact of bodies. -/
theorem touches_iff_isBody (few : b.world.bodies.length ≤ 2)
    (inside : place < b.world.bodies.length) :
    b.nextWorld.contacts.any (·.touches place) = true ↔
      ∃ c ∈ b.nextWorld.contacts, c.other.isBody = true := by
  have bodies : (b.driven b.intents).bodies.length = b.world.bodies.length :=
    b.driven_keeps (·.bodies.length) World.length_push World.length_spin b.intents
  simp only [List.any_eq_true, Contact.touches_iff]
  constructor
  · rintro ⟨c, member, other, touched, -⟩
    exact ⟨c, member, by rw [touched]; rfl⟩
  · rintro ⟨c, member, touched⟩
    cases other : c.other with
    | wall side => rw [other] at touched; cases touched
    | sensor i => rw [other] at touched; cases touched
    | body j =>
        have below := World.body_contact_lt member other
        exact ⟨c, member, j, other, by omega⟩

/-! ## Marks and contacts of one tick -/

/-- A mark that moving along takes away and cooling leaves is that of the ruling. -/
theorem mark_tickOnce {mark : FighterState → Bool} {set : Bool} {s : FighterState}
    (fresh : ∀ s place, mark (carried b.nextWorld b.intents s place) = false)
    (cooled : ∀ s ms, mark (FighterState.cool s ms) = mark s)
    (ruled : (b.ruling.states.map mark)[place]? = (b.moved.map mark)[place]?.map (· || set))
    (lookup : b.tickOnce.states[place]? = some s) : mark s = set := by
  rw [tickOnce_states, settled, List.getElem?_map] at lookup
  obtain ⟨old, before, rfl⟩ := Option.map_eq_some_iff.mp lookup
  rw [cooled]
  cases known : b.states[place]? with
  | none => simp [before, moved, known] at ruled
  | some s => simpa [before, moved, known, fresh] using ruled

theorem onSpikes_tickOnce {s : FighterState} (lookup : b.tickOnce.states[place]? = some s) :
    s.status.onSpikes = b.nextWorld.contacts.any (·.enters b.arena .spike place) := by
  refine mark_tickOnce ?_ (fun _ _ => rfl)
    (Ruling.ofContacts_onSpikes b.states b.moved b.nextWorld.contacts place) lookup
  intro s place
  rw [(carried_keeps _ _ s place).2.2.2.1]
  rfl

theorem inContact_tickOnce {s : FighterState} (lookup : b.tickOnce.states[place]? = some s) :
    s.status.inContact = b.nextWorld.contacts.any (·.touches place) := by
  refine mark_tickOnce ?_ (fun _ _ => rfl)
    (Ruling.ofContacts_inContact b.states b.moved b.nextWorld.contacts place) lookup
  intro s place
  rw [(carried_keeps _ _ s place).2.2.2.1]
  rfl

/-- Who reaches a pit is destroyed in the same tick. -/
theorem isAlive_tickOnce {s : FighterState} (lookup : b.tickOnce.states[place]? = some s)
    (pit : b.nextWorld.contacts.any (·.enters b.arena .pit place) = true) :
    s.isAlive = false := by
  rw [tickOnce_states, settled, List.getElem?_map] at lookup
  obtain ⟨old, before, rfl⟩ := Option.map_eq_some_iff.mp lookup
  have ruled := Ruling.ofContacts_reaches b.scene b.states b.moved b.nextWorld.contacts
  have inside : place < b.moved.length := by
    obtain ⟨inside, -⟩ := List.getElem?_eq_some_iff.mp before
    exact (Ruling.Reaches.length ruled) ▸ inside
  have destroyed : (b.ruling.states.map (·.isAlive))[place]? = some false :=
    Ruling.ofContacts_pit b.states inside pit
  show old.isAlive = false
  simpa [before] using destroyed

/-! ## Every tick of a match -/

/-- A match that has begun has come out of a tick. -/
theorem last_tick (going : b.isFinished = false) :
    ∀ n : Nat, ∃ m, steps (n + 1) b = (steps m b).tickOnce
  | 0 => ⟨0, step_of_not_isFinished going⟩
  | n + 1 => by
      obtain ⟨m, last⟩ := last_tick going n
      cases ended : (steps (n + 1) b).isFinished with
      | true => exact ⟨m, by rw [steps_succ, step_of_isFinished ended, last]⟩
      | false => exact ⟨n + 1, steps_succ_of_going ended⟩

/-- The fighter at a place after a tick, with its body. -/
theorem Placed.fighter (placed : b.Placed r a) (entered : r.Entered) {e : Entrant}
    (lookup : r.get? place = some e) :
    ∃ s body, b.tickOnce.states[place]? = some s ∧ b.nextWorld.bodies[place]? = some body ∧
      s.position = body.motion.position ∧ body.radius = larger e.stats.radius 0 ∧
      s.Marked b.tickOnce.damageLog.toList e := by
  have after := placed.tickOnce entered
  have inside : place < r.size := (List.getElem?_eq_some_iff.mp lookup).1
  obtain ⟨s, state⟩ : ∃ s, b.tickOnce.states[place]? = some s :=
    ⟨_, List.getElem?_eq_getElem (after.fighters.length.symm ▸ inside)⟩
  obtain ⟨body, here⟩ : ∃ body, b.tickOnce.world.bodies[place]? = some body :=
    ⟨_, List.getElem?_eq_getElem (after.length.symm ▸ inside)⟩
  have motions := b.motions_tickOnce (placed.fighters.length.trans placed.length.symm)
  refine ⟨s, body, state, by rw [← tickOnce_world, here], ?_, ?_,
    after.fighters.holds lookup state⟩
  · have same := congrArg (fun ms : List Motion => ms[place]?) motions
    simp only [List.getElem?_map, state, here, Option.map_some, Option.some.injEq] at same
    exact congrArg Motion.position same
  · have radii := congrArg (fun radii : List Float32 => radii[place]?) after.radii
    simp only [World.radii, List.getElem?_map, here, Option.map_some] at radii
    have known : r.entrants[place]? = some e := lookup
    simpa [known] using radii

/-- After every tick a fighter whose circle reaches a pit is destroyed and has no hit
points left, so no living fighter reaches one. It is marked on spikes exactly if its
circle reaches a spike zone, and in contact exactly if the physics reported a contact of
fighters. It is marked in a pit exactly if the log has an event of its fall, there is at
most one, and then it is destroyed. -/
theorem marks_after_tick (entered : r.Entered) (a : Arena) (c : MatchConfig) (n : Nat)
    {place : Nat} {e : Entrant} (lookup : r.get? place = some e) :
    let b := steps (n + 1) (start r a c)
    let falls := e.falls b.damageLog.toList
    ∃ s body, b.states[place]? = some s ∧ b.world.bodies[place]? = some body ∧
      s.position = body.motion.position ∧ body.radius = larger e.stats.radius 0 ∧
      (a.InZone .pit s.position body.radius → s.hp = 0 ∧ s.status.destroyed = true) ∧
      (s.isAlive = true → ¬ a.InZone .pit s.position body.radius) ∧
      (s.status.onSpikes = true ↔ a.InZone .spike s.position body.radius) ∧
      (s.status.inContact = true ↔ ∃ c ∈ b.world.contacts, c.other.isBody = true) ∧
      (s.status.inPit = true ↔ falls ≠ []) ∧ falls.length ≤ 1 ∧
      (s.status.inPit = true → s.status.destroyed = true) := by
  obtain ⟨m, last⟩ := last_tick (b := start r a c) rfl n
  have placed : (steps m (start r a c)).Placed r a :=
    steps_invariant (P := fun b => b.Placed r a) (fun _ _ placed => placed.tickOnce entered) m
      (start_placed r a c)
  rw [last]
  generalize steps m (start r a c) = b at placed
  intro b' falls
  obtain ⟨s, body, state, here, position, radius, marked⟩ := placed.fighter entered lookup
  have destroyed : s.isAlive = false → s.status.destroyed = true := by
    simp [FighterState.isAlive]
  have pit : a.InZone .pit s.position body.radius → s.isAlive = false := by
    rw [position, ← placed.enters_iff_inZone here, ← placed.arena]
    exact isAlive_tickOnce state
  have spikes : s.status.onSpikes = true ↔ a.InZone .spike s.position body.radius := by
    rw [position, ← placed.enters_iff_inZone here, onSpikes_tickOnce state, placed.arena]
  have contact : s.status.inContact = true ↔ ∃ c ∈ b'.world.contacts, c.other.isBody = true := by
    have few : b.world.bodies.length ≤ 2 := placed.length.trans_le entered.size_le
    have inside : place < b.world.bodies.length :=
      placed.length.symm ▸ (List.getElem?_eq_some_iff.mp lookup).1
    rw [inContact_tickOnce state, touches_iff_isBody few inside, ← tickOnce_world]
  have counted : falls.length = if s.status.inPit then 1 else 0 := marked.falls
  refine ⟨s, body, state, by rw [← here, ← tickOnce_world], position, radius,
    fun reached => ⟨marked.empty (pit reached), destroyed (pit reached)⟩,
    fun alive reached => ?_, spikes, contact, ?_, ?_, fun fell => destroyed (marked.below fell)⟩
  · simp [pit reached] at alive
  · rw [← List.length_pos_iff, counted]
    cases s.status.inPit <;> simp
  · rw [counted]
    split <;> simp

/-- An arena with a pit between two rows of spikes. -/
def gauntlet : Arena :=
  { Arena.plain with
    hazards := [⟨.spike, ⟨400, 100⟩, ⟨200, 40⟩, some 5⟩, ⟨.pit, ⟨400, 300⟩, ⟨80, 80⟩, none⟩,
      ⟨.spike, ⟨400, 500⟩, ⟨200, 40⟩, none⟩] }

/-- Ten seconds of a duel: the light fighter is on spikes exactly if it reaches them. -/
theorem duel_marks_after_tick :
    Roster.duel.Entered ∧
      ∃ e s body, Roster.duel.get? 0 = some e ∧
        (steps (599 + 1) (start .duel gauntlet .usual)).states[0]? = some s ∧
        (steps (599 + 1) (start .duel gauntlet .usual)).world.bodies[0]? = some body ∧
        (s.isAlive = true → ¬ gauntlet.InZone .pit s.position body.radius) ∧
        (s.status.onSpikes = true ↔ gauntlet.InZone .spike s.position body.radius) := by
  have first : Roster.duel.get? 0 = some (.of Roster.sawyer ⟨200, 300⟩ .stock) := rfl
  obtain ⟨s, body, state, here, -, -, -, pit, spikes, -⟩ :=
    marks_after_tick Roster.duel_entered gauntlet .usual 599 first
  exact ⟨Roster.duel_entered, _, s, body, first, state, here, pit, spikes⟩

end Battle

end RobotCombat
