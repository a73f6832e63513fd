/-
# RobotCombat.Proofs.Match.Blows — the damage of a tick, cause by cause

Strikes and walls do damage in contacts that began in the tick, a strike once
(`Placed.strikes_le_one`) and a wall once for each side that a fighter runs into
(`Placed.walls_le`).
Spinners and spikes do it in every tick, to a fighter that the damage before has left
alive: `Placed.grinds`, `Placed.spikes`.
-/
import RobotCombat.Proofs.Match.Stages

namespace RobotCombat

set_option autoImplicit false

open Number

namespace Battle

variable {r : Roster} {a : Arena} {b : Battle} {place : Nat} {e : Entrant} {s : FighterState}
  {body : Body}

/-! ## Strikes and walls -/

/-- A fighter is struck at most once in a tick, and only in a contact that began in it. -/
theorem Placed.strikes_le_one (placed : b.Placed r a) (entered : r.Entered)
    (lookup : r.get? place = some e) :
    ((e.suffered b.ruling.damage).filter (·.cause.stage = .strike)).length ≤ 1 ∧
      ((e.suffered b.ruling.damage).filter (·.cause.stage = .strike) ≠ [] →
        ∃ c, b.clash? = some c ∧ c.isNew = true) := by
  obtain ⟨s, body, state, here⟩ := placed.stands entered lookup
  rw [placed.suffered_at entered lookup state here]
  constructor
  · have sources : ((b.fateAt place (a.zonesIn body) e s .strike).damage.map
        DamageEvent.source).length ≤ _ := (sources_endure (b.strikesAt place)).length_le
    rw [List.length_map] at sources
    exact sources.trans sources_strikesAt_le_one
  · intro some
    obtain ⟨event, member⟩ := List.exists_mem_of_ne_nil _ some
    obtain ⟨raw, harm⟩ := mem_fateAt (by decide) member
    exact (strikesAt_harm harm).2

/-- Whether a body newly runs into a wall faster than it can take. -/
def runsInto (b : Battle) (place : Nat) (met : WallSide × Float32) : Bool :=
  (b.wallContact place met).isNew && !(decide (met.2 ≤ wallThreshold))

theorem sources_wallsAt_le :
    ((b.wallsAt place).filterMap Deed.source).length ≤
      ((b.wallsMet place).filter (b.runsInto place)).length := by
  unfold wallsAt
  induction b.wallsMet place with
  | nil => exact Nat.le_refl 0
  | cons met mets ih =>
      rw [List.flatMap_cons, List.filterMap_append, List.length_append]
      by_cases hard : b.runsInto place met = true
      · have one : (Hazards.deeds b.scene (b.wallContact place met)).length ≤ 1 := by
          have other : (b.wallContact place met).other = .wall met.1 := rfl
          unfold Hazards.deeds
          rw [other]
          dsimp only
          split <;> simp
        have recorded :=
          (List.length_filterMap_le Deed.source
            (Hazards.deeds b.scene (b.wallContact place met))).trans one
        rw [List.filter_cons_of_pos hard, List.length_cons]
        omega
      · have nothing : Hazards.deeds b.scene (b.wallContact place met) = [] := by
          refine List.eq_nil_iff_forall_not_mem.mpr fun d member => hard ?_
          obtain ⟨⟨fresh, fast⟩, -⟩ := mem_wall_deeds member
          simp [runsInto, fresh, fast]
        rw [List.filter_cons_of_neg hard, nothing]
        simpa using ih

/-- The walls that a body meets are different ones, and the contacts with them are among
those of the tick. -/
theorem wallsMet_listed (b : Battle) (place : Nat) :
    ((b.wallsMet place).map (·.1)).Nodup ∧
      ∀ met ∈ b.wallsMet place, 0 ≤ met.2 ∧ b.wallContact place met ∈ b.nextWorld.contacts := by
  have listed : b.nextWorld.contacts.filter (·.body = place) = _ := World.contacts_of_body place
  unfold wallsMet
  cases walled : ((b.driven b.intents).walled b.config.tickMs)[place]? with
  | none => exact ⟨List.nodup_nil, nofun⟩
  | some after =>
      obtain ⟨sides, speeds⟩ := World.met_of_walled walled
      refine ⟨sides.nodup (by decide), fun met member => ⟨speeds met member, ?_⟩⟩
      rw [walled, Option.map_some, Option.getD_some] at listed
      refine List.mem_of_mem_filter (p := fun c => decide (c.body = place)) ?_
      rw [listed, World.meetingsOf]
      refine List.mem_map_of_mem (List.mem_append_left _ (List.mem_append_right _ ?_))
      exact List.mem_map_of_mem member

/-- Walls hurt a fighter at most once for each side that it newly runs into faster than it
can take. -/
theorem Placed.walls_le (placed : b.Placed r a) (entered : r.Entered)
    (lookup : r.get? place = some e) :
    ∃ sides : List WallSide, sides.Nodup ∧
      ((e.suffered b.ruling.damage).filter (·.cause = .wall)).length ≤ sides.length ∧
      ∀ side ∈ sides, ∃ c ∈ b.nextWorld.contacts, c.pair = (place, .wall side) ∧
        c.isNew = true ∧ wallThreshold < c.speed := by
  obtain ⟨s, body, state, here⟩ := placed.stands entered lookup
  simp only [← Cause.stage_eq_wall_iff]
  rw [placed.suffered_at entered lookup state here]
  have sources : ((b.fateAt place (a.zonesIn body) e s .wall).damage.map
      DamageEvent.source).length ≤ _ := (sources_endure (b.wallsAt place)).length_le
  rw [List.length_map] at sources
  obtain ⟨nodup, met⟩ := b.wallsMet_listed place
  refine ⟨((b.wallsMet place).filter (b.runsInto place)).map (·.1), ?_, ?_, ?_⟩
  · exact (List.filter_sublist.map _).nodup nodup
  · rw [List.length_map]
    exact sources.trans sources_wallsAt_le
  · intro side member
    obtain ⟨wall, hard, rfl⟩ := List.mem_map.mp member
    obtain ⟨member, hard⟩ := List.mem_filter.mp hard
    obtain ⟨speed, listed⟩ := met wall member
    simp only [runsInto, Bool.and_eq_true, Bool.not_eq_true', decide_eq_false_iff_not] at hard
    exact ⟨_, listed, rfl, hard.1,
      less_of_not_le (ne_nan_of_le_right speed) (by decide) hard.2⟩

/-! ## Spinners and spikes -/

/-- Spinners do damage only to a fighter in contact, and only those of a living one. -/
theorem Placed.grinds_ne_nil (placed : b.Placed r a) (entered : r.Entered)
    (lookup : r.get? place = some e)
    (some : (e.suffered b.ruling.damage).filter (·.cause = .weapon .spinner) ≠ []) :
    b.clash? ≠ none ∧ b.Alive (1 - place) := by
  obtain ⟨s, body, state, here⟩ := placed.stands entered lookup
  simp only [← Cause.stage_eq_grind_iff] at some
  rw [placed.suffered_at entered lookup state here] at some
  obtain ⟨event, member⟩ := List.exists_mem_of_ne_nil _ some
  obtain ⟨raw, harm⟩ := mem_fateAt (by decide) member
  have harm : .harm event.attacker raw event.cause ∈ b.grindsAt place := harm
  unfold grindsAt at harm
  split at harm
  · rename_i c clash
    obtain ⟨o, me, living, -⟩ := Combat.mem_grinds_harm harm
    refine ⟨by simp [clash], (placed.living_iff_alive _).mp ?_⟩
    rw [living]
    rfl
  · cases harm

/-- A fighter in contact with a living one takes of its spinners' damage, in slot order,
what it lives to take after the strike. -/
theorem Placed.grinds (placed : b.Placed r a) (entered : r.Entered)
    (lookup : r.get? place = some e) (state : b.states[place]? = some s)
    (scored : b.tickOnce.unscorable = false) {o : Entrant}
    (opponent : r.get? (1 - place) = some o) (alive : b.Alive (1 - place))
    (touching : b.clash? ≠ none) :
    (e.suffered b.ruling.damage).filter (·.cause = .weapon .spinner) =
      (s.after ((e.suffered b.ruling.damage).filter (·.cause.stage = .strike))).bears
        (o.grindsDue e b.scene.timestamp) := by
  obtain ⟨-, body, -, here⟩ := placed.stands entered lookup
  simp only [← Cause.stage_eq_grind_iff]
  rw [placed.suffered_at entered lookup state here, placed.suffered_at entered lookup state here]
  obtain ⟨c, clash⟩ := Option.ne_none_iff_exists'.mp touching
  obtain ⟨me, known, alive⟩ := alive
  have living : b.scene.living? b.states (1 - place) = some (o, me) :=
    placed.living?_eq_some_iff.mpr ⟨opponent, known, alive⟩
  have ground : b.grindsAt place = Combat.ground o := by
    unfold grindsAt Combat.grinds
    rw [clash, living]
  have stays : ∀ d ∈ b.grindsAt place, d ≠ .drop := by
    rintro d member rfl
    exact not_mem_stageDeeds_drop (a.zonesIn body) .grind nofun member
  have taken : (b.fateAt place (a.zonesIn body) e s .grind).damage = _ :=
    (endure_damage stays (placed.scored_at entered lookup state here scored .grind).2).1
  rw [taken, ground, due_ground]
  exact FighterState.bears_congr
    (placed.vitals_before entered lookup state here scored .grind) _

/-- A fighter takes of the spikes that it stands on, in the order of the zones, what it
lives to take after all other damage and before it falls. -/
theorem Placed.spikes (placed : b.Placed r a) (entered : r.Entered)
    (lookup : r.get? place = some e) (state : b.states[place]? = some s)
    (here : b.nextWorld.bodies[place]? = some body) (scored : b.tickOnce.unscorable = false) :
    (e.suffered b.ruling.damage).filter (·.cause = .spikes) =
      (s.after ((e.suffered b.ruling.damage).filter (·.cause.stage ≠ .zone))).bears
        (((a.zonesIn body).takeWhile (·.kind = .spike)).filterMap
          (Hazard.spikeDue e b.scene.timestamp)) := by
  have zones : (e.suffered b.ruling.damage).filter (·.cause = .spikes) =
      ((e.suffered b.ruling.damage).filter (·.cause.stage = .zone)).filter (·.cause = .spikes) := by
    rw [List.filter_filter]
    refine List.filter_congr fun event _ => ?_
    cases cause : event.cause with
    | spikes => rfl
    | _ => simp
  have taken : (b.fateAt place (a.zonesIn body) e s .zone).damage.filter (·.cause = .spikes) = _ :=
    spikes_endure (placed.scored_at entered lookup state here scored .zone).2
  rw [zones, placed.suffered_at entered lookup state here,
    placed.suffered_before entered lookup state here, taken]
  exact FighterState.bears_congr
    (placed.vitals_before entered lookup state here scored .zone) _

end Battle

end RobotCombat
