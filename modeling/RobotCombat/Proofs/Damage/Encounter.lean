/-
# RobotCombat.Proofs.Damage.Encounter — what a contact has in store for a fighter

Two fighters in contact go through the same: each is touched, strikes and is struck if
the contact is new, and is ground by the other one's spinners. `Combat.encounter` lists
that for one of them, whichever of the two the contact names first (`endure_deeds`).
From the list one reads off when a cooldown starts (`mem_deeds_trigger_iff`) and where
harm may come from (`mem_deeds_harm`).
-/
import RobotCombat.Proofs.Damage.Endurance

namespace RobotCombat

set_option autoImplicit false

/-- When in a tick damage is dealt: first by strikes, then by spinners, by walls and by
zones. -/
inductive Stage where
  | strike
  | grind
  | wall
  | zone
  deriving DecidableEq, Repr

/-- The stage at which damage of a cause is dealt. -/
def Cause.stage : Cause → Stage
  | .collision => .strike
  | .weapon kind => if kind.isContinuous then .grind else .strike
  | .wall => .wall
  | .pit => .zone
  | .spikes => .zone

theorem Cause.stage_eq_grind_iff {cause : Cause} :
    cause.stage = .grind ↔ cause = .weapon .spinner := by
  cases cause with
  | weapon kind => cases kind <;> decide
  | _ => decide

theorem Cause.stage_eq_wall_iff {cause : Cause} : cause.stage = .wall ↔ cause = .wall := by
  cases cause with
  | weapon kind => cases kind <;> decide
  | _ => decide

/-- The weapons that never cool down are wedges and spinners. -/
theorem Weapon.isTriggered_iff (w : Weapon) :
    w.isTriggered = true ↔ w.kind ≠ .wedge ∧ w.kind ≠ .spinner := by
  unfold isTriggered
  cases w.kind <;> simp

/-- A contact between the fighters of two places. -/
def Contact.Joins (c : Contact) (place other : Nat) : Prop :=
  (c.body = place ∧ c.other = .body other) ∨ (c.body = other ∧ c.other = .body place)

namespace Combat

variable {scene : Scene} {current : List FighterState} {place other : Nat} {c : Contact}

/-- What the fighter at a place goes through in a contact with another one. -/
def encounter (scene : Scene) (current : List FighterState) (place other : Nat) (c : Contact) :
    List Deed :=
  .touch
    :: (if c.isNew then
          spends scene current place other ++ deals scene current other place c.speed
        else [])
    ++ grinds scene current other

theorem mem_deeds_iff {d : Deed} :
    (place, d) ∈ deeds scene current c ↔
      ∃ other, c.Joins place other ∧ d ∈ encounter scene current place other c := by
  unfold deeds Contact.Joins encounter strikeDeeds grindDeeds
  cases c.other with
  | body j =>
      cases c.isNew <;> simp [eq_comm] <;> grind
  | _ => simp

/-! ## Strikes -/

/-- The cause of a blow is that of a weapon that is not continuous. -/
theorem cause_of_blow {me : FighterState} {speed : Float32} {weapons : List Mounted}
    {cause : Cause} :
    ∀ {slot : Nat} {b : Blow}, (blow me speed slot b weapons).cause = some cause →
      b.cause = some cause ∨
        ∃ m ∈ weapons, cause = .weapon m.weapon.kind ∧ m.weapon.kind.isContinuous = false := by
  induction weapons with
  | nil => exact fun known => .inl known
  | cons m weapons ih =>
      intro slot b known
      rcases ih known with added | ⟨m', member, rest⟩
      · unfold Blow.add at added
        split at added
        · rename_i positive
          cases before : b.cause with
          | some first => exact .inl (by simpa [before] using added)
          | none =>
              obtain rfl : Cause.weapon m.weapon.kind = cause := by simpa [before] using added
              refine .inr ⟨m, List.mem_cons_self, rfl, ?_⟩
              -- a spinner adds nothing to a strike
              unfold Weapon.contribution at positive
              cases kind : m.weapon.kind <;> simp [kind] at positive <;> try rfl
              exact absurd positive (by decide)
        · exact .inl added
      · exact .inr ⟨m', List.mem_cons_of_mem m member, rest⟩

theorem mem_triggered_iff {me : FighterState} {weapons : List Mounted} {slot : Nat}
    {ms : Float32} {first : Nat} :
    (slot, ms) ∈ triggered me first weapons ↔
      ∃ i m, slot = first + i ∧ weapons[i]? = some m ∧ me.isReady slot = true ∧
        m.weapon.isTriggered = true ∧ ms = m.weapon.cooldownMs := by
  induction weapons generalizing first with
  | nil => simp [triggered]
  | cons m weapons ih =>
      have split : (slot, ms) ∈ triggered me first (m :: weapons) ↔
          (slot = first ∧ me.isReady slot = true ∧ m.weapon.isTriggered = true ∧
            ms = m.weapon.cooldownMs) ∨ (slot, ms) ∈ triggered me (first + 1) weapons := by
        rw [triggered]
        by_cases started : (me.isReady first && m.weapon.isTriggered) = true
        · rw [if_pos started]
          grind
        · rw [if_neg started]
          grind
      rw [split, ih]
      constructor
      · rintro (⟨rfl, rest⟩ | ⟨i, m', rfl, lookup, rest⟩)
        · exact ⟨0, m, rfl, rfl, rest⟩
        · exact ⟨i + 1, m', by omega, lookup, rest⟩
      · rintro ⟨i, m', rfl, lookup, rest⟩
        cases i with
        | zero =>
            obtain rfl : m = m' := by simpa using lookup
            exact .inl ⟨rfl, rest⟩
        | succ i => exact .inr ⟨i, m', by omega, by simpa using lookup, rest⟩

theorem started_of_spends {d : Deed} (member : d ∈ spends scene current place other) :
    ∃ slot ms, d = .trigger slot ms := by
  unfold spends spent at member
  split at member
  · obtain ⟨t, -, rfl⟩ := List.mem_map.mp member
    exact ⟨t.1, t.2, rfl⟩
  · cases member

theorem mem_spends_iff {slot : Nat} {ms : Float32} :
    .trigger slot ms ∈ spends scene current place other ↔
      ∃ e me, scene.living? current place = some (e, me) ∧
        (scene.living? current other).isSome = true ∧
        (slot, ms) ∈ triggered me 0 e.loadout.weapons := by
  unfold spends spent
  rcases scene.living? current place with _ | ⟨e, me⟩ <;>
    cases scene.living? current other <;> simp

/-- A strike pushes and harms. -/
theorem mem_deals {speed : Float32} {d : Deed}
    (member : d ∈ deals scene current other place speed) :
    (∃ force, d = .push force) ∨
      ∃ e me opponent them, scene.living? current other = some (e, me) ∧
        scene.living? current place = some (opponent, them) ∧
        d = strikeHarm me e opponent speed := by
  unfold deals dealt at member
  split at member
  · rename_i e me opponent them striker struck
    rcases List.mem_append.mp member with pushed | harmed
    · obtain ⟨k, -, rfl⟩ := List.mem_map.mp pushed
      exact .inl ⟨k.2, rfl⟩
    · exact .inr ⟨e, me, opponent, them, striker, struck, List.mem_singleton.mp harmed⟩
  · cases member

theorem not_mem_deals_trigger {speed : Float32} {slot : Nat} {ms : Float32} :
    .trigger slot ms ∉ deals scene current other place speed := by
  intro member
  rcases mem_deals member with ⟨force, same⟩ | ⟨e, me, opponent, them, -, -, same⟩
  · cases same
  · cases same

/-- The harm of a strike names the one who strikes, and a weapon of its or none. -/
theorem mem_deals_harm {speed raw : Float32} {attacker : Option String} {cause : Cause}
    (member : .harm attacker raw cause ∈ deals scene current other place speed) :
    ∃ e me, scene.living? current other = some (e, me) ∧ attacker = some e.id ∧
      (cause = .collision ∨ ∃ m ∈ e.loadout.weapons, cause = .weapon m.weapon.kind) ∧
      cause.stage = .strike := by
  rcases mem_deals member with ⟨force, same⟩ | ⟨e, me, opponent, them, striker, -, same⟩
  · cases same
  · refine ⟨e, me, striker, ?_⟩
    unfold strikeHarm at same
    dsimp only at same
    obtain ⟨rfl, -, rfl⟩ := Deed.harm.inj same
    cases known : (blow me speed 0 ⟨0, none⟩ e.loadout.weapons).cause with
    | none => exact ⟨rfl, .inl rfl, rfl⟩
    | some cause =>
        rcases cause_of_blow known with none | ⟨m, mounted, rfl, discrete⟩
        · cases none
        · exact ⟨rfl, .inr ⟨m, mounted, rfl⟩, by simp [Cause.stage, discrete]⟩

/-- A strike does harm once. -/
theorem sources_deals_le_one (speed : Float32) :
    ((deals scene current other place speed).filterMap Deed.source).length ≤ 1 := by
  unfold deals dealt
  split
  · have pushed : ∀ kicks : List (Nat × Vector2),
        (kicks.map fun k => Deed.push k.2).filterMap Deed.source = [] := by
      intro kicks
      simp [List.filterMap_map, Function.comp_def, Deed.source]
    rw [List.filterMap_append, pushed]
    exact (List.length_filterMap_le _ _)
  · exact Nat.zero_le 1

theorem mem_grinds_iff {d : Deed} :
    d ∈ grinds scene current other ↔
      ∃ e me, scene.living? current other = some (e, me) ∧
        ∃ m ∈ e.loadout.weapons, m.weapon.kind.isContinuous = true ∧
          .harm (some e.id) (m.weapon.baseDamage * 0.1) (.weapon m.weapon.kind) = d := by
  unfold grinds ground
  rcases scene.living? current other with _ | ⟨e, me⟩ <;> simp [and_assoc]

theorem mem_grinds_harm {raw : Float32} {attacker : Option String} {cause : Cause}
    (member : .harm attacker raw cause ∈ grinds scene current other) :
    ∃ e me, scene.living? current other = some (e, me) ∧ attacker = some e.id ∧
      (cause = .collision ∨ ∃ m ∈ e.loadout.weapons, cause = .weapon m.weapon.kind) ∧
      cause.stage = .grind := by
  obtain ⟨e, me, grinder, m, mounted, continuous, same⟩ := mem_grinds_iff.mp member
  obtain ⟨rfl, -, rfl⟩ := Deed.harm.inj same
  exact ⟨e, me, grinder, rfl, .inr ⟨m, mounted, rfl⟩, if_pos continuous⟩

/-! ## Encounters -/

/-- A fighter goes through the same whichever of the two a contact names first. -/
theorem endure_deeds (joins : c.Joins place other) (distinct : place ≠ other)
    (timestamp : Float32) (e : Entrant) (s : FighterState) :
    endure timestamp e s (entriesAt place (deeds scene current c)) =
      endure timestamp e s (encounter scene current place other c) := by
  have apart : ∀ ds : List Deed, entriesAt place (ds.map (other, ·)) = [] :=
    entriesAt_map_other (Ne.symm distinct)
  rcases joins with ⟨first, second⟩ | ⟨first, second⟩
  · have listed : entriesAt place (deeds scene current c) =
        encounter scene current place other c := by
      unfold deeds encounter strikeDeeds grindDeeds
      rw [first, second]
      cases c.isNew <;> simp [entriesAt_cons_other, apart, Ne.symm distinct]
    rw [listed]
  · have listed : entriesAt place (deeds scene current c) =
        [.touch]
          ++ (if c.isNew then
                deals scene current other place c.speed ++ spends scene current place other
              else [])
          ++ grinds scene current other := by
      unfold deeds strikeDeeds grindDeeds
      rw [first, second]
      cases c.isNew <;> simp [entriesAt_cons_other, apart, Ne.symm distinct]
    have order : ∀ s, endure timestamp e s
          (deals scene current other place c.speed ++ spends scene current place other) =
        endure timestamp e s
          (spends scene current place other ++ deals scene current other place c.speed) := by
      intro s
      refine (endure_swap (fun d member => started_of_spends member) ?_).symm
      rintro d member slot ms rfl
      exact not_mem_deals_trigger member
    have unfolded : encounter scene current place other c =
        [.touch]
          ++ (if c.isNew then
                spends scene current place other ++ deals scene current other place c.speed
              else [])
          ++ grinds scene current other := rfl
    rw [listed, unfolded]
    cases c.isNew with
    | false => rfl
    | true =>
        rw [if_pos rfl, if_pos rfl]
        simp only [endure_append [.touch], endure_append ([.touch] ++ _), order]

theorem mem_encounter_iff {d : Deed} :
    d ∈ encounter scene current place other c ↔
      d = .touch ∨
        (c.isNew = true ∧
          (d ∈ spends scene current place other ∨ d ∈ deals scene current other place c.speed)) ∨
        d ∈ grinds scene current other := by
  unfold encounter
  cases c.isNew <;> simp [or_assoc]

/-- Cooldowns are started by a new contact of two living fighters, and only those that
have run down. -/
theorem mem_encounter_trigger_iff {slot : Nat} {ms : Float32} :
    .trigger slot ms ∈ encounter scene current place other c ↔
      c.isNew = true ∧ ∃ e me, scene.living? current place = some (e, me) ∧
        (scene.living? current other).isSome = true ∧
        (slot, ms) ∈ triggered me 0 e.loadout.weapons := by
  have noGrind : .trigger slot ms ∉ grinds scene current other := by
    rw [mem_grinds_iff]
    rintro ⟨e, me, -, m, -, -, same⟩
    cases same
  simp [← mem_spends_iff, mem_encounter_iff, not_mem_deals_trigger, noGrind]

/-- Harm in an encounter comes from the other fighter, who was alive: of a strike if the
contact is new, or of a spinner. -/
theorem mem_encounter_harm {attacker : Option String} {raw : Float32} {cause : Cause}
    (member : .harm attacker raw cause ∈ encounter scene current place other c) :
    ∃ e me, scene.living? current other = some (e, me) ∧ attacker = some e.id ∧
      (cause = .collision ∨ ∃ m ∈ e.loadout.weapons, cause = .weapon m.weapon.kind) ∧
      ((c.isNew = true ∧ cause.stage = .strike) ∨ cause.stage = .grind) := by
  rcases mem_encounter_iff.mp member with same | ⟨fresh, spent | dealt⟩ | ground
  · cases same
  · obtain ⟨slot, ms, same⟩ := started_of_spends spent
    cases same
  · obtain ⟨e, me, striker, named, means, strike⟩ := mem_deals_harm dealt
    exact ⟨e, me, striker, named, means, .inl ⟨fresh, strike⟩⟩
  · obtain ⟨e, me, grinder, named, means, grind⟩ := mem_grinds_harm ground
    exact ⟨e, me, grinder, named, means, .inr grind⟩

/-- Nobody falls in an encounter. -/
theorem not_mem_encounter_drop : .drop ∉ encounter scene current place other c := by
  intro member
  rcases mem_encounter_iff.mp member with same | ⟨-, spent | dealt⟩ | ground
  · cases same
  · obtain ⟨slot, ms, same⟩ := started_of_spends spent
    cases same
  · rcases mem_deals dealt with ⟨force, same⟩ | ⟨e, me, opponent, them, -, -, same⟩ <;> cases same
  · obtain ⟨e, me, -, m, -, -, same⟩ := mem_grinds_iff.mp ground
    cases same

end Combat

/-! ## The deeds of a tick -/

namespace Ruling

variable {scene : Scene} {current : List FighterState} {contacts : List Contact} {place : Nat}

/-- The deeds of the arena at a place are those of the contacts of that place. -/
theorem entriesAt_hazards (scene : Scene) (contacts : List Contact) (place : Nat) :
    entriesAt place (contacts.flatMap fun c => (Hazards.deeds scene c).map (c.body, ·)) =
      (contacts.filter (·.body = place)).flatMap (Hazards.deeds scene) := by
  rw [entriesAt_flatMap]
  induction contacts with
  | nil => rfl
  | cons c contacts ih =>
      rw [List.flatMap_cons, ih]
      by_cases here : c.body = place
      · simp [here]
      · simp [here, entriesAt_map_other here]

/-- The deeds of a tick at a place: what fighters do there, then what the arena does. -/
theorem entriesAt_deeds (scene : Scene) (current : List FighterState) (contacts : List Contact)
    (place : Nat) :
    entriesAt place (deeds scene current contacts) =
      contacts.flatMap (fun c => entriesAt place (Combat.deeds scene current c))
        ++ (contacts.filter (·.body = place)).flatMap (Hazards.deeds scene) := by
  rw [deeds, entriesAt_append, entriesAt_flatMap, entriesAt_hazards]

/-- The arena never starts a cooldown, and its harm is nobody's. -/
theorem mem_hazards_deeds {c : Contact} {d : Deed} (member : d ∈ Hazards.deeds scene c) :
    d = .prick ∨ d = .drop ∨ ∃ raw cause, d = .harm none raw cause ∧
      (cause = .wall ∨ cause = .spikes) := by
  unfold Hazards.deeds at member
  split at member
  · split at member
    · cases member
    · exact .inr (.inr ⟨_, _, List.mem_singleton.mp member, .inl rfl⟩)
  · rename_i i _
    cases known : scene.arena.hazards[i]? with
    | none => simp [known] at member
    | some h =>
        unfold Hazards.zoneDeeds at member
        cases kind : h.kind with
        | spike =>
            have member : d = .prick ∨ d = .harm none (Hazards.spikeDamage h.damage) .spikes := by
              simpa [known, kind] using member
            rcases member with prick | harm
            · exact .inl prick
            · exact .inr (.inr ⟨_, _, harm, .inr rfl⟩)
        | pit => exact .inr (.inl (by simpa [known, kind] using member))
  · cases member

theorem mem_deeds {d : Deed} (member : (place, d) ∈ deeds scene current contacts) :
    (∃ c ∈ contacts, ∃ other, c.Joins place other ∧
        d ∈ Combat.encounter scene current place other c) ∨
      ∃ c ∈ contacts, c.body = place ∧ d ∈ Hazards.deeds scene c := by
  rcases List.mem_append.mp member with fought | suffered
  · obtain ⟨c, listed, deed⟩ := List.mem_flatMap.mp fought
    exact .inl ⟨c, listed, Combat.mem_deeds_iff.mp deed⟩
  · obtain ⟨c, listed, deed⟩ := List.mem_flatMap.mp suffered
    obtain ⟨d', arena, same⟩ := List.mem_map.mp deed
    obtain ⟨rfl, rfl⟩ := Prod.mk.inj same
    exact .inr ⟨c, listed, rfl, arena⟩

/-- A cooldown starts exactly in a new contact of two living fighters, if it has run
down. -/
theorem mem_deeds_trigger_iff {slot : Nat} {ms : Float32} :
    (place, .trigger slot ms) ∈ deeds scene current contacts ↔
      ∃ c ∈ contacts, ∃ other, c.Joins place other ∧ c.isNew = true ∧
        ∃ e me, scene.living? current place = some (e, me) ∧
          (scene.living? current other).isSome = true ∧
          (slot, ms) ∈ Combat.triggered me 0 e.loadout.weapons := by
  constructor
  · intro member
    rcases mem_deeds member with ⟨c, listed, other, joins, deed⟩ | ⟨c, -, -, arena⟩
    · exact ⟨c, listed, other, joins, Combat.mem_encounter_trigger_iff.mp deed⟩
    · rcases mem_hazards_deeds arena with same | same | ⟨raw, cause, same, -⟩ <;> cases same
  · rintro ⟨c, listed, other, joins, started⟩
    refine List.mem_append_left _ (List.mem_flatMap.mpr ⟨c, listed, ?_⟩)
    exact Combat.mem_deeds_iff.mpr ⟨other, joins, Combat.mem_encounter_trigger_iff.mpr started⟩

/-- Harm is done by the arena, or by a living fighter in contact: with a strike if the
contact is new, or with a spinner. -/
theorem mem_deeds_harm {attacker : Option String} {raw : Float32} {cause : Cause}
    (member : (place, .harm attacker raw cause) ∈ deeds scene current contacts) :
    (attacker = none ∧ (cause = .wall ∨ cause = .spikes)) ∨
      ∃ c ∈ contacts, ∃ other, c.Joins place other ∧
        ∃ e me, scene.living? current other = some (e, me) ∧ attacker = some e.id ∧
          (cause = .collision ∨ ∃ m ∈ e.loadout.weapons, cause = .weapon m.weapon.kind) ∧
          ((c.isNew = true ∧ cause.stage = .strike) ∨ cause.stage = .grind) := by
  rcases mem_deeds member with ⟨c, listed, other, joins, deed⟩ | ⟨c, -, -, arena⟩
  · exact .inr ⟨c, listed, other, joins, Combat.mem_encounter_harm deed⟩
  · rcases mem_hazards_deeds arena with same | same | ⟨raw', cause', same, origin⟩
    · cases same
    · cases same
    · obtain ⟨rfl, -, rfl⟩ : attacker = none ∧ raw = raw' ∧ cause = cause' := by
        simpa using same
      exact .inl ⟨rfl, origin⟩

end Ruling

end RobotCombat
