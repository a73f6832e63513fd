/-
# RobotCombat.Proofs.Match.Alignment — one place, one fighter, and sound hit points

Every list of a match stands in roster order, every state is sound for the entrant
of its place, and a fighter is where its body is. `Aligned` collects that; it holds
when a match of healthy entrants starts and every tick keeps it, so it holds after
any number of steps (`fighters_stay_aligned`). It includes that no damage is left
unscored: hit points always have a range.
-/
import RobotCombat.Proofs.Damage.Soundness
import RobotCombat.Proofs.Match.Tick

namespace RobotCombat

set_option autoImplicit false

namespace Battle

/-- A match whose lists agree with a roster place by place. -/
structure Aligned (r : Roster) (b : Battle) : Prop where
  roster : b.roster = r
  scorable : b.unscorable = false
  fighters : r.Sound b.states
  previous : b.previous.length = r.size
  controllers : b.controllers.length = r.size
  bodies : b.world.bodies.length = r.size
  motions : b.states.map FighterState.motion = b.world.bodies.map (·.motion)

variable {r : Roster}

theorem start_bodies (r : Roster) (a : Arena) (c : MatchConfig) :
    (start r a c).world.bodies =
      r.entrants.map fun e => .rest e.spawn e.stats.radius e.stats.weight :=
  World.bodies_foldl_addBody (fun e : Entrant => e.spawn) (fun e => e.stats.radius)
    (fun e => e.stats.weight) r.entrants (.ofArena a c.physics)

theorem start_aligned (entered : r.Entered) (healthy : r.Healthy) (a : Arena) (c : MatchConfig) :
    (start r a c).Aligned r where
  roster := rfl
  scorable := rfl
  fighters := by
    apply Roster.Each.spawnStates
    intro place e lookup
    exact FighterState.sound_spawnState (healthy lookup) (entered.formed lookup)
  previous := List.length_map _
  controllers := List.length_map _
  bodies := by
    rw [start_bodies, List.length_map]
    rfl
  motions := by
    rw [start_bodies, List.map_map]
    show (r.entrants.map Entrant.spawnState).map FighterState.motion = _
    rw [List.map_map]
    rfl

/-- A tick keeps all lists aligned. -/
theorem Aligned.tickOnce {b : Battle} (healthy : r.Healthy) (aligned : b.Aligned r) :
    b.tickOnce.Aligned r := by
  obtain ⟨rfl, scorable, fighters, previous, controllers, bodies, motions⟩ := aligned
  have entrants : b.scene.roster.Healthy := healthy
  have moved : b.scene.roster.Sound b.moved :=
    fighters.mapPlaces _ fun _ good => sound_carried b.nextWorld b.intents _ good
  obtain ⟨ruled, scored⟩ :=
    Ruling.ofContacts_sound entrants b.states b.nextWorld.contacts moved
  have settled : b.roster.Sound b.settled := ruled.map _ fun good => good.cool _
  have together : b.states.length = b.world.bodies.length := fighters.length.trans bodies.symm
  exact
    { roster := b.tickOnce_roster
      scorable := by
        rw [tickOnce_eq]
        show (b.unscorable || b.ruling.unscorable) = false
        rw [scorable, Bool.false_or]
        exact scored
      fighters := by
        rw [tickOnce_states]
        exact settled
      previous := by
        rw [tickOnce_eq]
        exact fighters.length
      controllers := b.length_controllers.trans controllers
      bodies := by
        rw [tickOnce_world, length_nextWorld]
        exact bodies
      motions := b.motions_tickOnce together }

theorem steps_aligned (entered : r.Entered) (healthy : r.Healthy) (a : Arena) (c : MatchConfig)
    (n : Nat) : (steps n (start r a c)).Aligned r :=
  steps_invariant (P := fun b => b.Aligned r) (fun _ _ aligned => aligned.tickOnce healthy) n
    (start_aligned entered healthy a c)

/-- After any number of steps a match of healthy entrants has one state, one body and
one controller in each place of its roster. The state there carries the id and the
maximum of the entrant, a cooldown that is not negative for each of its weapons, hit
points between zero and the maximum, which are zero exactly when it is destroyed, and
the motion of the body. -/
theorem fighters_stay_aligned (entered : r.Entered) (healthy : r.Healthy) (a : Arena)
    (c : MatchConfig) (n : Nat) :
    let b := steps n (start r a c)
    b.roster = r ∧ b.unscorable = false ∧
      b.states.length = r.size ∧ b.previous.length = r.size ∧
      b.world.bodies.length = r.size ∧ b.controllers.length = r.size ∧
      ∀ place, place < r.size → ∃ e s body,
        r.get? place = some e ∧ b.states[place]? = some s ∧ b.world.bodies[place]? = some body ∧
        (0 ≤ s.hp ∧ s.hp ≤ s.maxHp) ∧
        (s.status.destroyed = false ↔ 0 < s.hp) ∧ (s.status.destroyed = true → s.hp = 0) ∧
        (∀ ms ∈ s.cooldowns, 0 ≤ ms) ∧
        s.id = e.id ∧ s.maxHp = e.stats.maxHp ∧
        s.cooldowns.length = e.loadout.weapons.length ∧
        s.position = body.motion.position ∧ s.velocity = body.motion.velocity ∧
        s.angle = body.motion.angle := by
  intro b
  have aligned : b.Aligned r := steps_aligned entered healthy a c n
  refine ⟨aligned.roster, aligned.scorable, aligned.fighters.length, aligned.previous,
    aligned.bodies, aligned.controllers, ?_⟩
  intro place inside
  have stateInside : place < b.states.length := aligned.fighters.length.symm ▸ inside
  have bodyInside : place < b.world.bodies.length := aligned.bodies.symm ▸ inside
  have state := List.getElem?_eq_getElem stateInside
  have body := List.getElem?_eq_getElem bodyInside
  obtain ⟨e, lookup, good⟩ := aligned.fighters.entrant state
  refine ⟨e, _, _, lookup, state, body, ⟨good.nonneg, good.bounded⟩, ?_, good.destroyed,
    good.cooldowns, good.id, good.maxHp, good.slots, ?_⟩
  · have alive := good.alive
    unfold FighterState.isAlive at alive
    rw [Bool.not_eq_true'] at alive
    exact alive
  · have same : b.states[place].motion = b.world.bodies[place].motion := by
      have motions := congrArg (fun ms : List Motion => ms[place]?) aligned.motions
      simp only [List.getElem?_map, state, body, Option.map_some, Option.some.injEq] at motions
      exact motions
    rw [← same]
    exact ⟨rfl, rfl, rfl⟩

/-- Ten seconds of a duel: the light fighter still has its maximum, and hit points
within it. -/
theorem duel_stays_aligned :
    Roster.duel.Entered ∧ Roster.duel.Healthy ∧
      ∃ s, (steps 600 (start .duel .plain .usual)).states[0]? = some s ∧
        s.maxHp = 60 ∧ 0 ≤ s.hp ∧ s.hp ≤ s.maxHp := by
  refine ⟨Roster.duel_entered, Roster.duel_healthy, ?_⟩
  have aligned := fighters_stay_aligned Roster.duel_entered Roster.duel_healthy .plain .usual 600
  obtain ⟨e, s, -, lookup, state, -, range, -, -, -, -, maximum, -⟩ :=
    aligned.2.2.2.2.2.2 0 (by decide)
  obtain rfl : _ = e := Option.some.inj lookup
  exact ⟨s, state, maximum, range⟩

end Battle

end RobotCombat
