/-
# RobotCombat.Proofs.Match.Stages — what a fighter takes in a tick, in order

A fighter first takes the strike of the other one, then its spinners, then the walls that
it ran into and last the zones that it is in: `Placed.endure_deeds`. Each of these four
stages deals damage of its own causes, so the log of a tick can be taken apart by cause
(`Placed.suffered_at`), and each stage finds the fighter as the damage of the ones before
it leaves it (`Placed.vitals_before`).
-/
import RobotCombat.Proofs.Match.Fates

namespace RobotCombat

set_option autoImplicit false

/-- The zones of an arena that a body is in, in their order. -/
def Arena.zonesIn (a : Arena) (body : Body) : List Hazard :=
  a.hazards.filter fun h =>
    (Sensor.around h.position h.size).overlaps body.motion.position body.radius

/-- Things that come to nothing can be left out. -/
theorem flatMap_filter_of_nil {α β : Type} {f : α → List β} {p : α → Bool} {xs : List α}
    (nothing : ∀ x, p x = false → f x = []) : xs.flatMap f = (xs.filter p).flatMap f := by
  induction xs with
  | nil => rfl
  | cons x xs ih =>
      rw [List.flatMap_cons, ih]
      cases known : p x with
      | true => rw [List.filter_cons_of_pos known, List.flatMap_cons]
      | false => rw [List.filter_cons_of_neg (by simp [known]), nothing x known, List.nil_append]

namespace Battle

section Stages

variable (b : Battle) (place : Nat)

/-- The contact of the two fighters in the next tick. -/
def clash? : Option Contact := (b.nextWorld.contacts.filter (·.other.isBody)).head?

/-- What a fighter goes through when the two strike each other. -/
def strikesAt : List Deed :=
  match b.clash? with
  | some c =>
    .touch
      :: if c.isNew then
          Combat.spends b.scene b.states place (1 - place)
            ++ Combat.deals b.scene b.states (1 - place) place c.speed
        else []
  | none => []

/-- What the spinners of the other one do to a fighter. -/
def grindsAt : List Deed :=
  match b.clash? with
  | some _ => Combat.grinds b.scene b.states (1 - place)
  | none => []

/-- The walls that a body meets in the next tick, with the speed of impact. -/
def wallsMet : List (WallSide × Float32) :=
  ((((b.driven b.intents).walled b.config.tickMs)[place]?).map (·.2)).getD []

/-- The contact with a wall. -/
def wallContact (met : WallSide × Float32) : Contact :=
  World.Meeting.toContact (b.driven b.intents).touching ⟨place, .wall met.1, met.2⟩

/-- What walls do to a fighter. -/
def wallsAt : List Deed :=
  (b.wallsMet place).flatMap fun met => Hazards.deeds b.scene (b.wallContact place met)

end Stages

variable {r : Roster} {a : Arena} {b : Battle} {place : Nat} {e : Entrant} {s : FighterState}
  {body : Body}

/-- Each entrant has a state before a tick and a body after it. -/
theorem Placed.stands (placed : b.Placed r a) (entered : r.Entered)
    (lookup : r.get? place = some e) :
    ∃ s body, b.states[place]? = some s ∧ b.nextWorld.bodies[place]? = some body := by
  obtain ⟨s, state, -⟩ := placed.state lookup
  obtain ⟨-, body, -, here, -⟩ := placed.fighter entered lookup
  exact ⟨s, body, state, here⟩

/-- Between two fighters there is at most one contact. -/
theorem Placed.clashes (placed : b.Placed r a) (entered : r.Entered) :
    b.nextWorld.contacts.filter (·.other.isBody) = b.clash?.toList := by
  have few : (b.driven b.intents).bodies.length ≤ 2 := by
    rw [length_driven, placed.length]
    exact entered.size_le
  have one : (b.nextWorld.contacts.filter (·.other.isBody)).length ≤ 1 :=
    World.body_contacts_le_one few
  unfold clash?
  generalize b.nextWorld.contacts.filter (·.other.isBody) = touching at one
  cases touching with
  | nil => rfl
  | cons c rest =>
      obtain rfl : rest = [] := by simpa using one
      rfl

theorem Placed.mem_clash? (placed : b.Placed r a) (entered : r.Entered) {c : Contact} :
    b.clash? = some c ↔ c ∈ b.nextWorld.contacts ∧ c.pair = (0, .body 1) := by
  have few := entered.size_le
  have listed : c ∈ b.nextWorld.contacts.filter (·.other.isBody) ↔ b.clash? = some c := by
    rw [placed.clashes entered, Option.mem_toList]
  rw [← listed, List.mem_filter]
  refine and_congr_right fun member => ?_
  unfold Contact.pair
  cases other : c.other with
  | body j =>
      have order := World.body_contact_lt member other
      rw [length_driven, placed.length] at order
      simp only [Touched.isBody, Prod.mk.injEq, Touched.body.injEq, true_iff]
      unfold Roster.capacity at few
      omega
  | _ => simp [Touched.isBody]

/-- What the arena does to a fighter: first the walls, then the zones. -/
theorem Placed.arena_deeds (placed : b.Placed r a)
    (here : b.nextWorld.bodies[place]? = some body) :
    (b.nextWorld.contacts.filter (·.body = place)).flatMap (Hazards.deeds b.scene) =
      b.wallsAt place ++ (a.zonesIn body).flatMap Hazards.zoneDeeds := by
  have sensors : (b.driven b.intents).sensors =
      a.hazards.map fun h => .around h.position h.size :=
    (b.sensors_driven b.intents).trans placed.sensors
  have hazards : b.scene.arena.hazards = a.hazards := by rw [← placed.arena]; rfl
  have moved : b.nextWorld.bodies[place]? =
      (((b.driven b.intents).walled b.config.tickMs)[place]?).map (·.1) := World.getElem?_step
  rw [moved] at here
  obtain ⟨after, walled, rfl⟩ := Option.map_eq_some_iff.mp here
  have walls : b.wallsMet place = after.2 := by
    unfold wallsMet
    rw [walled]
    rfl
  have listed : b.nextWorld.contacts.filter (·.body = place) = _ := World.contacts_of_body place
  have bodies : ∀ pairs : List World.Meeting, (∀ m ∈ pairs, ∃ j, m.other = .body j) →
      (pairs.map (World.Meeting.toContact (b.driven b.intents).touching)).flatMap
        (Hazards.deeds b.scene) = [] := by
    intro pairs between
    rw [List.flatMap_map, List.flatMap_eq_nil_iff]
    intro m member
    obtain ⟨j, other⟩ := between m member
    unfold Hazards.deeds World.Meeting.toContact
    rw [other]
  have zones := World.sensed_flatMap (fun h : Hazard => Sensor.around h.position h.size)
    Hazards.zoneDeeds after.1 a.hazards []
  rw [listed, walled, Option.map_some, Option.getD_some, World.meetingsOf, List.map_append,
    List.map_append, List.flatMap_append, List.flatMap_append, bodies, List.nil_append]
  · congr 1
    · unfold wallsAt
      rw [walls, List.map_map, List.flatMap_map]
      rfl
    · rw [List.map_map, List.flatMap_map, sensors]
      refine Eq.trans ?_ zones
      refine List.flatMap_congr fun i _ => ?_
      rw [← hazards]
      rfl
  · intro m member
    obtain ⟨j, other, -⟩ := World.mem_met (List.mem_of_mem_filter member)
    exact ⟨j, other⟩

/-- The deeds of a tick at a place come in four stages. -/
theorem Placed.endure_deeds (placed : b.Placed r a) (entered : r.Entered)
    (lookup : r.get? place = some e) (here : b.nextWorld.bodies[place]? = some body)
    (timestamp : Float32) (s : FighterState) :
    endure timestamp e s (entriesAt place b.deeds) =
      endure timestamp e s (b.strikesAt place ++ b.grindsAt place ++ b.wallsAt place
        ++ (a.zonesIn body).flatMap Hazards.zoneDeeds) := by
  have inside : place < 2 :=
    (List.getElem?_eq_some_iff.mp lookup).1.trans_le entered.size_le
  have apart : place ≠ 1 - place := by omega
  have fought : (b.nextWorld.contacts.flatMap fun c =>
        entriesAt place (Combat.deeds b.scene b.states c)) =
      b.clash?.toList.flatMap fun c => entriesAt place (Combat.deeds b.scene b.states c) := by
    rw [← placed.clashes entered]
    refine flatMap_filter_of_nil fun c other => ?_
    unfold Combat.deeds
    cases touched : c.other with
    | body j => simp [touched, Touched.isBody] at other
    | _ => rfl
  rw [deeds, Ruling.entriesAt_deeds, fought, placed.arena_deeds here, ← List.append_assoc]
  unfold strikesAt grindsAt
  cases clash : b.clash? with
  | none => rfl
  | some c =>
      have pair := ((placed.mem_clash? entered).mp clash).2
      obtain ⟨first, second⟩ : c.body = 0 ∧ c.other = .body 1 := Prod.mk.inj pair
      have joins : c.Joins place (1 - place) := by
        have cases : place = 0 ∨ place = 1 := by omega
        rcases cases with rfl | rfl
        · exact .inl ⟨first, second⟩
        · exact .inr ⟨first, second⟩
      have met : endure timestamp e s (entriesAt place (Combat.deeds b.scene b.states c)) = _ :=
        Combat.endure_deeds joins apart timestamp e s
      simp only [Option.toList_some, List.flatMap_cons, List.flatMap_nil, List.append_nil]
      rw [List.append_assoc, List.append_assoc, endure_append, met, ← endure_append]
      simp [Combat.encounter]

/-! ## Stages -/

section Stages

variable (b : Battle) (place : Nat) (zones : List Hazard)

/-- The deeds of a stage of a tick at a place, where the body ends up in zones. -/
def stageDeeds : Stage → List Deed
  | .strike => b.strikesAt place
  | .grind => b.grindsAt place
  | .wall => b.wallsAt place
  | .zone => zones.flatMap Hazards.zoneDeeds

/-- The deeds of the stages before one. -/
def earlierDeeds : Stage → List Deed
  | .strike => []
  | .grind => b.strikesAt place
  | .wall => b.strikesAt place ++ b.grindsAt place
  | .zone => b.strikesAt place ++ b.grindsAt place ++ b.wallsAt place

/-- What becomes of a fighter until a stage. -/
def fateBefore (e : Entrant) (s : FighterState) (stage : Stage) : Fate :=
  endure b.scene.timestamp e (carried b.nextWorld b.intents s place)
    (b.earlierDeeds place stage)

/-- What becomes of it at a stage. -/
def fateAt (e : Entrant) (s : FighterState) (stage : Stage) : Fate :=
  endure b.scene.timestamp e (b.fateBefore place e s stage).state
    (b.stageDeeds place zones stage)

end Stages

theorem strikesAt_harm {attacker : Option String} {raw : Float32} {cause : Cause}
    (member : .harm attacker raw cause ∈ b.strikesAt place) :
    cause.stage = .strike ∧ ∃ c, b.clash? = some c ∧ c.isNew = true := by
  unfold strikesAt at member
  split at member
  · rename_i c clash
    rcases List.mem_cons.mp member with same | struck
    · cases same
    · split at struck
      · rename_i fresh
        rcases List.mem_append.mp struck with spent | dealt
        · obtain ⟨slot, ms, same⟩ := Combat.started_of_spends spent
          cases same
        · obtain ⟨-, -, -, -, -, strike⟩ := Combat.mem_deals_harm dealt
          exact ⟨strike, c, clash, fresh⟩
      · cases struck
  · cases member

/-- A fighter is struck at most once. -/
theorem sources_strikesAt_le_one :
    ((b.strikesAt place).filterMap Deed.source).length ≤ 1 := by
  unfold strikesAt
  split
  · split
    · have spent :
          (Combat.spends b.scene b.states place (1 - place)).filterMap Deed.source = [] := by
        refine List.filterMap_eq_nil_iff.mpr fun d member => ?_
        obtain ⟨slot, ms, rfl⟩ := Combat.started_of_spends member
        rfl
      rw [List.filterMap_cons_none (by rfl), List.filterMap_append, spent]
      exact Combat.sources_deals_le_one _
    · exact Nat.zero_le 1
  · exact Nat.zero_le 1

theorem grindsAt_harm {attacker : Option String} {raw : Float32} {cause : Cause}
    (member : .harm attacker raw cause ∈ b.grindsAt place) : cause.stage = .grind := by
  unfold grindsAt at member
  split at member
  · obtain ⟨-, -, -, -, -, grind⟩ := Combat.mem_grinds_harm member
    exact grind
  · cases member

/-- A wall does harm in a new contact at more than the threshold. -/
theorem mem_wall_deeds {met : WallSide × Float32} {d : Deed}
    (member : d ∈ Hazards.deeds b.scene (b.wallContact place met)) :
    ((b.wallContact place met).isNew = true ∧ ¬ met.2 ≤ wallThreshold) ∧
      ∃ raw, d = .harm none raw .wall := by
  have other : (b.wallContact place met).other = .wall met.1 := rfl
  have speed : (b.wallContact place met).speed = met.2 := rfl
  unfold Hazards.deeds at member
  rw [other, speed] at member
  dsimp only at member
  split at member
  · cases member
  · rename_i hard
    simp only [Bool.or_eq_true, Bool.not_eq_true', decide_eq_true_eq, not_or,
      Bool.not_eq_false] at hard
    exact ⟨hard, _, List.mem_singleton.mp member⟩

theorem stays_wallsAt {d : Deed} (member : d ∈ b.wallsAt place) :
    ∃ raw, d = .harm none raw .wall := by
  obtain ⟨met, -, deed⟩ := List.mem_flatMap.mp member
  exact (mem_wall_deeds deed).2

theorem zoneDeeds_harm {zones : List Hazard} {attacker : Option String} {raw : Float32}
    {cause : Cause} (member : .harm attacker raw cause ∈ zones.flatMap Hazards.zoneDeeds) :
    cause.stage = .zone := by
  obtain ⟨h, -, deed⟩ := List.mem_flatMap.mp member
  unfold Hazards.zoneDeeds at deed
  split at deed
  · rcases List.mem_cons.mp deed with same | harm
    · cases same
    · obtain ⟨-, -, rfl⟩ := Deed.harm.inj (List.mem_singleton.mp harm)
      rfl
  · cases List.mem_singleton.mp deed

/-- Nobody falls before the last stage. -/
theorem not_mem_stageDeeds_drop (zones : List Hazard) (stage : Stage) (early : stage ≠ .zone) :
    .drop ∉ b.stageDeeds place zones stage := by
  intro member
  cases stage with
  | strike =>
      have member : .drop ∈ b.strikesAt place := member
      unfold strikesAt at member
      split at member
      · rename_i c _
        have met : .drop ∈ Combat.encounter b.scene b.states place (1 - place) c :=
          List.mem_append_left _ member
        exact Combat.not_mem_encounter_drop met
      · cases member
  | grind =>
      have member : .drop ∈ b.grindsAt place := member
      unfold grindsAt at member
      split at member
      · obtain ⟨e, me, -, m, -, -, same⟩ := Combat.mem_grinds_iff.mp member
        cases same
      · cases member
  | wall =>
      obtain ⟨raw, same⟩ := stays_wallsAt member
      cases same
  | zone => exact early rfl

theorem not_mem_earlierDeeds_drop (stage : Stage) : .drop ∉ b.earlierDeeds place stage := by
  have strikes : .drop ∉ b.strikesAt place := not_mem_stageDeeds_drop [] .strike nofun
  have grinds : .drop ∉ b.grindsAt place := not_mem_stageDeeds_drop [] .grind nofun
  have walls : .drop ∉ b.wallsAt place := not_mem_stageDeeds_drop [] .wall nofun
  cases stage <;> simp [earlierDeeds, strikes, grinds, walls]

/-- Before the last stage all that is recorded comes of harm. -/
theorem mem_fateAt {zones : List Hazard} {stage : Stage} (early : stage ≠ .zone)
    {event : DamageEvent} (member : event ∈ (b.fateAt place zones e s stage).damage) :
    ∃ raw, .harm event.attacker raw event.cause ∈ b.stageDeeds place zones stage := by
  rcases mem_endure member with harm | ⟨-, -, dropped⟩
  · exact harm
  · exact absurd dropped (not_mem_stageDeeds_drop zones stage early)

/-- What a stage records is of its own causes. -/
theorem stage_of_fateAt {zones : List Hazard} {stage : Stage} {event : DamageEvent}
    (member : event ∈ (b.fateAt place zones e s stage).damage) : event.cause.stage = stage := by
  cases stage with
  | strike =>
      obtain ⟨raw, harm⟩ := mem_fateAt (by decide) member
      exact (strikesAt_harm harm).1
  | grind =>
      obtain ⟨raw, harm⟩ := mem_fateAt (by decide) member
      exact grindsAt_harm harm
  | wall =>
      obtain ⟨raw, harm⟩ := mem_fateAt (by decide) member
      obtain ⟨raw', same⟩ := stays_wallsAt harm
      rw [(Deed.harm.inj same).2.2]
      rfl
  | zone =>
      rcases mem_endure member with ⟨raw, harm⟩ | ⟨-, fall, -⟩
      · exact zoneDeeds_harm harm
      · rw [fall]
        rfl

/-- What a fighter takes in a tick is what it takes at the four stages. -/
theorem Placed.suffered (placed : b.Placed r a) (entered : r.Entered)
    (lookup : r.get? place = some e) (state : b.states[place]? = some s)
    (here : b.nextWorld.bodies[place]? = some body) :
    e.suffered b.ruling.damage =
      (b.fateBefore place e s .zone).damage ++ (b.fateAt place (a.zonesIn body) e s .zone).damage ∧
    (b.fateBefore place e s .zone).damage =
      (b.fateAt place (a.zonesIn body) e s .strike).damage
        ++ (b.fateAt place (a.zonesIn body) e s .grind).damage
        ++ (b.fateAt place (a.zonesIn body) e s .wall).damage := by
  have strikes : (b.fateBefore place e s .grind).damage =
      (b.fateAt place (a.zonesIn body) e s .strike).damage := rfl
  have grinds : (b.fateBefore place e s .wall).damage =
      (b.fateBefore place e s .grind).damage
        ++ (b.fateAt place (a.zonesIn body) e s .grind).damage := damage_endure_append _ _
  have walls : (b.fateBefore place e s .zone).damage =
      (b.fateBefore place e s .wall).damage
        ++ (b.fateAt place (a.zonesIn body) e s .wall).damage := damage_endure_append _ _
  constructor
  · rw [(placed.ruling_holds entered lookup state).damage,
      placed.endure_deeds entered lookup here]
    exact damage_endure_append _ _
  · rw [walls, grinds, strikes]

/-- The events of a tick against a fighter with causes of a stage are those of the stage. -/
theorem Placed.suffered_at (placed : b.Placed r a) (entered : r.Entered)
    (lookup : r.get? place = some e) (state : b.states[place]? = some s)
    (here : b.nextWorld.bodies[place]? = some body) (stage : Stage) :
    (e.suffered b.ruling.damage).filter (·.cause.stage = stage) =
      (b.fateAt place (a.zonesIn body) e s stage).damage := by
  obtain ⟨all, before⟩ := placed.suffered entered lookup state here
  have own : ∀ k, (b.fateAt place (a.zonesIn body) e s k).damage.filter (·.cause.stage = stage) =
      if k = stage then (b.fateAt place (a.zonesIn body) e s k).damage else [] := by
    intro k
    split
    · rename_i same
      exact List.filter_eq_self.mpr fun event member => by simp [stage_of_fateAt member, same]
    · rename_i other
      exact List.filter_eq_nil_iff.mpr fun event member => by simp [stage_of_fateAt member, other]
  rw [all, before]
  simp only [List.filter_append, own]
  cases stage <;> simp

/-- Those with other causes than zones come before. -/
theorem Placed.suffered_before (placed : b.Placed r a) (entered : r.Entered)
    (lookup : r.get? place = some e) (state : b.states[place]? = some s)
    (here : b.nextWorld.bodies[place]? = some body) :
    (e.suffered b.ruling.damage).filter (·.cause.stage ≠ .zone) =
      (b.fateBefore place e s .zone).damage := by
  obtain ⟨all, before⟩ := placed.suffered entered lookup state here
  have kept : (b.fateBefore place e s .zone).damage.filter (·.cause.stage ≠ .zone) =
      (b.fateBefore place e s .zone).damage := by
    refine List.filter_eq_self.mpr fun event member => ?_
    rw [before] at member
    rcases List.mem_append.mp member with earlier | wall
    · rcases List.mem_append.mp earlier with strike | grind
      · simp [stage_of_fateAt strike]
      · simp [stage_of_fateAt grind]
    · simp [stage_of_fateAt wall]
  have gone : (b.fateAt place (a.zonesIn body) e s .zone).damage.filter
      (·.cause.stage ≠ .zone) = [] :=
    List.filter_eq_nil_iff.mpr fun event member => by simp [stage_of_fateAt member]
  rw [all, List.filter_append, kept, gone, List.append_nil]

/-! ## The fighter between the stages -/

/-- In a tick that is scored every stage is. -/
theorem Placed.scored_at (placed : b.Placed r a) (entered : r.Entered)
    (lookup : r.get? place = some e) (state : b.states[place]? = some s)
    (here : b.nextWorld.bodies[place]? = some body) (scored : b.tickOnce.unscorable = false)
    (stage : Stage) :
    (b.fateBefore place e s stage).unscorable = false ∧
      (b.fateAt place (a.zonesIn body) e s stage).unscorable = false := by
  have all := placed.scored lookup state scored
  rw [placed.endure_deeds entered lookup here] at all
  simp only [unscorable_endure_append, Bool.or_eq_false_iff] at all
  obtain ⟨⟨⟨strikes, grinds⟩, walls⟩, zones⟩ := all
  cases stage with
  | strike => exact ⟨rfl, strikes⟩
  | grind => exact ⟨strikes, grinds⟩
  | wall =>
      refine ⟨?_, walls⟩
      unfold fateBefore earlierDeeds
      rw [unscorable_endure_append, strikes, grinds]
      rfl
  | zone =>
      refine ⟨?_, zones⟩
      unfold fateBefore earlierDeeds
      rw [unscorable_endure_append, unscorable_endure_append, strikes, grinds, walls]
      rfl

theorem vitals_carried (w : World) (intents : List Intent) (s : FighterState) (place : Nat) :
    (carried w intents s place).vitals = s.vitals := by
  obtain ⟨-, hp, maxHp, status, -⟩ := carried_keeps w intents s place
  unfold FighterState.vitals FighterState.isAlive
  rw [hp, maxHp, status]
  rfl

/-- A stage finds a fighter as the damage before it leaves the fighter. -/
theorem Placed.vitals_before (placed : b.Placed r a) (entered : r.Entered)
    (lookup : r.get? place = some e) (state : b.states[place]? = some s)
    (here : b.nextWorld.bodies[place]? = some body) (scored : b.tickOnce.unscorable = false)
    (stage : Stage) :
    (b.fateBefore place e s stage).state.vitals =
      (s.after (b.fateBefore place e s stage).damage).vitals := by
  have scored := (placed.scored_at entered lookup state here scored stage).1
  have stays : ∀ d ∈ b.earlierDeeds place stage, d ≠ .drop := by
    rintro d member rfl
    exact not_mem_earlierDeeds_drop stage member
  have endured : (b.fateBefore place e s stage).state.vitals = _ := (endure_damage stays scored).2
  exact endured.trans (FighterState.vitals_after (vitals_carried _ _ s place) _)

end Battle

end RobotCombat
