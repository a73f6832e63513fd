/-
# RobotCombat.Proofs.Match.Origins — where the entries of the damage log come from

Whatever hurts a healthy entrant is more than nothing (`ofContacts_hurts`). Who is named
for it follows from the deeds of the tick: the arena is nobody, and a fighter is named only
if it was alive when the tick began and touches the one it hurt, with a strike only in the
tick in which they came together (`Attack`).

* `damage_log_is_founded`: every entry of the log is an event of some tick with such grounds.
-/
import RobotCombat.Proofs.Match.Alignment
import RobotCombat.Proofs.Match.Fates

namespace RobotCombat

set_option autoImplicit false

namespace Ruling

variable {scene : Scene} {r r' : Ruling}

/-- A change of a sound ruling records events for more than nothing only. -/
theorem Change.hurts (change : Change scene r r') (sound : scene.roster.Sound r.states)
    (hurts : ∀ event ∈ r.damage, 0 < event.damage) : ∀ event ∈ r'.damage, 0 < event.damage := by
  cases change with
  | hurt attacker cause entered lookup alive positive range blow =>
      intro event member
      rcases List.mem_append.mp member with before | now
      · exact hurts event before
      · obtain rfl := List.mem_singleton.mp now
        exact positive
  | fall lookup alive =>
      intro event member
      rcases List.mem_append.mp member with before | now
      · exact hurts event before
      · obtain rfl := List.mem_singleton.mp now
        obtain ⟨e, -, good⟩ := sound.entrant lookup
        exact good.alive.mp alive
  | _ => exact hurts

/-- So does the ruling on a tick of healthy entrants. -/
theorem ofContacts_hurts (healthy : scene.roster.Healthy) (current : List FighterState)
    {next : List FighterState} (contacts : List Contact) (sound : scene.roster.Sound next) :
    ∀ event ∈ (ofContacts scene current next contacts).damage, 0 < event.damage := by
  have kept := (ofContacts_reaches scene current next contacts).invariant
    (P := fun r => scene.roster.Sound r.states ∧ ∀ event ∈ r.damage, 0 < event.damage)
    (fun change kept => ⟨change.sound healthy kept.1, change.hurts kept.1 kept.2⟩)
    ⟨sound, nofun⟩
  exact kept.2

end Ruling

namespace Battle

variable {r : Roster} {a : Arena} {b : Battle}

/-- The grounds on which a fighter is named for damage to another one in the next tick. -/
structure Attack (r : Roster) (b : Battle) (target attacker : Nat) (e : Entrant)
    (cause : Cause) : Prop where
  other : attacker ≠ target
  entered : r.get? attacker = some e
  alive : b.Alive attacker
  means : cause = .collision ∨ ∃ m ∈ e.loadout.weapons, cause = .weapon m.weapon.kind
  contact : ∃ c ∈ b.nextWorld.contacts, c.Joins attacker target ∧
    (cause = .weapon .spinner ∨ ∀ before ∈ b.world.contacts, before.pair ≠ c.pair)

/-- Bodies in contact are two. -/
theorem ne_of_joins {c : Contact} (member : c ∈ b.nextWorld.contacts) {i j : Nat}
    (joins : c.Joins i j) : i ≠ j := by
  rcases joins with ⟨rfl, other⟩ | ⟨rfl, other⟩
  · exact Nat.ne_of_lt (World.body_contact_lt member other).1
  · exact Nat.ne_of_gt (World.body_contact_lt member other).1

/-- The arena does damage by walls, pits and spikes, and all other damage is that of an
attack. -/
theorem Placed.origin (placed : b.Placed r a) (entered : r.Entered) {target : Nat} {o : Entrant}
    (lookup : r.get? target = some o) {event : DamageEvent} (member : event ∈ b.ruling.damage)
    (against : event.target = o.id) :
    (event.attacker = none ∧
        (event.cause = .wall ∨ event.cause = .pit ∨ event.cause = .spikes)) ∨
      ∃ i e, event.attacker = some e.id ∧ b.Attack r target i e event.cause := by
  obtain ⟨s, state, -⟩ := placed.state lookup
  have suffered : event ∈ o.suffered b.ruling.damage :=
    List.mem_filter.mpr ⟨member, by simp [against]⟩
  rw [(placed.ruling_holds entered lookup state).damage] at suffered
  rcases mem_endure suffered with ⟨raw, harm⟩ | ⟨nobody, fall, -⟩
  · rcases Ruling.mem_deeds_harm (mem_entriesAt.mp harm) with
      ⟨nobody, arena⟩ | ⟨c, listed, i, joins, e, me, living, named, means, phase⟩
    · exact .inl ⟨nobody, arena.imp_right .inr⟩
    · obtain ⟨present, here, alive⟩ := placed.living?_eq_some_iff.mp living
      refine .inr ⟨i, e, named, (ne_of_joins listed joins).symm, present, ⟨me, here, alive⟩, means,
        c, listed, Or.symm joins, ?_⟩
      rcases phase with ⟨fresh, -⟩ | grind
      · exact .inr ((placed.isNew_iff listed).mp fresh)
      · exact .inl (Cause.stage_eq_grind_iff.mp grind)
  · exact .inl ⟨nobody, .inr (.inl fall)⟩

/-- Every entry of the damage log was recorded in a tick of the match with the time at its
end, is for more than nothing and against an entrant. It names nobody exactly if it was
done by a wall, a pit or spikes. Otherwise it names the other entrant, which was alive
when the tick began and hurt by running into the other or by a weapon it carries, in a
contact of the two that began in this tick unless the weapon is a spinner. -/
theorem damage_log_is_founded (entered : r.Entered) (healthy : r.Healthy) (a : Arena)
    (c : MatchConfig) (n : Nat) {event : DamageEvent}
    (member : event ∈ (steps n (start r a c)).damageLog.toList) :
    ∃ k, k < n ∧ (steps k (start r a c)).isFinished = false ∧
      event ∈ (steps (k + 1) (start r a c)).lastDamage ∧
      event.timestamp = (steps (k + 1) (start r a c)).elapsedMs ∧ 0 < event.damage ∧
      ∃ target o, r.get? target = some o ∧ event.target = o.id ∧
        (event.attacker = none ↔
          event.cause = .wall ∨ event.cause = .pit ∨ event.cause = .spikes) ∧
        ∀ id, event.attacker = some id →
          ∃ i e, e.id = id ∧ (steps k (start r a c)).Attack r target i e event.cause := by
  rcases mem_damageLog member with before | ⟨k, below, going, dealt⟩
  · cases before
  have aligned := steps_aligned entered healthy a c k
  have placed := steps_placed entered a c k
  have next : steps (k + 1) (start r a c) = (steps k (start r a c)).tickOnce := by
    rw [steps_succ, step_of_not_isFinished going]
  refine ⟨k, below, going, ?_⟩
  rw [next]
  generalize steps k (start r a c) = b at aligned placed dealt
  have known : b.scene.roster = r := placed.roster
  have moved : b.scene.roster.Sound b.moved := by
    rw [known]
    exact aligned.fighters.mapPlaces _ fun _ good => sound_carried b.nextWorld b.intents _ good
  have positive := Ruling.ofContacts_hurts (known ▸ healthy) b.states b.nextWorld.contacts moved
    event dealt
  obtain ⟨⟨target, o, lookup, against⟩, timestamp⟩ := placed.told dealt
  have origin := placed.origin entered lookup dealt against
  refine ⟨by rw [tickOnce_lastDamage]; exact dealt, ?_, positive, target, o, lookup, against,
    ?_, ?_⟩
  · rw [timestamp, elapsedMs, tickOnce_config, tickOnce_tick]
  · rcases origin with ⟨nobody, caused⟩ | ⟨i, e, named, attack⟩
    · simp [nobody, caused]
    · rcases attack.means with collision | ⟨m, -, weapon⟩
      · simp [named, collision]
      · simp [named, weapon]
  · intro id some
    rcases origin with ⟨nobody, -⟩ | ⟨i, e, named, attack⟩
    · rw [nobody] at some
      cases some
    · exact ⟨i, e, Option.some.inj (named.symm.trans some), attack⟩

/-- At arm's length the heavy fighter hurts the other one in the first tick, being alive and
with a contact that began. -/
theorem clinch_log_is_founded :
    Roster.clinch.Entered ∧ Roster.clinch.Healthy ∧
      ∃ event ∈ (steps 1 (start .clinch .plain .usual)).damageLog.toList,
        event.attacker = some "smith" ∧ 0 < event.damage ∧
          ∃ target i e, e.id = "smith" ∧
            (start .clinch .plain .usual).Attack .clinch target i e event.cause := by
  have hurt : ((steps 1 (start .clinch .plain .usual)).damageLog.toList.any
      fun event => event.attacker = some "smith") = true := by decide +kernel
  obtain ⟨event, member, named⟩ := List.any_eq_true.mp hurt
  have named : event.attacker = some "smith" := by simpa using named
  obtain ⟨k, below, -, -, -, positive, target, o, -, -, -, attack⟩ :=
    damage_log_is_founded Roster.clinch_entered Roster.clinch_healthy .plain .usual 1 member
  obtain rfl : k = 0 := Nat.lt_one_iff.mp below
  obtain ⟨i, e, id, attack⟩ := attack "smith" named
  exact ⟨Roster.clinch_entered, Roster.clinch_healthy, event, member, named, positive, target, i, e,
    id, attack⟩

end Battle

end RobotCombat
