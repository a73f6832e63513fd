/-
# RobotCombat.Proofs.Match.Account — the damage log replays to the hit points

In a match of healthy entrants the damage log alone determines the hit points:
deducting the events against a fighter from its maximum gives exactly what it has
left, falls included, and no event follows the one that destroyed it
(`damage_log_replays`). The account is kept by the ruling of each tick, and neither
moving along nor cooling down is a matter of hit points.
-/
import RobotCombat.Proofs.Damage.Account
import RobotCombat.Proofs.Match.Tick

namespace RobotCombat

set_option autoImplicit false

namespace Battle

/-- A match whose log accounts for the hit points of all its fighters. -/
structure Accounted (r : Roster) (b : Battle) : Prop where
  roster : b.roster = r
  fighters : r.Each (FighterState.Accounted b.damageLog.toList) b.states

variable {r : Roster}

theorem start_accounted (entered : r.Entered) (healthy : r.Healthy) (a : Arena)
    (c : MatchConfig) : (start r a c).Accounted r where
  roster := rfl
  fighters := by
    apply Roster.Each.spawnStates
    intro place e lookup
    apply FighterState.accounted_spawnState
    exact FighterState.sound_spawnState (healthy lookup) (entered.formed lookup)

theorem Accounted.tickOnce {b : Battle} (entered : r.Entered) (healthy : r.Healthy)
    (account : b.Accounted r) : b.tickOnce.Accounted r := by
  obtain ⟨rfl, fighters⟩ := account
  have known : b.scene.roster.Entered := entered
  have fit : b.scene.roster.Healthy := healthy
  have moved : b.scene.roster.Each (FighterState.Accounted b.damageLog.toList) b.moved := by
    refine fighters.mapPlaces _ ?_
    intro place e s _ kept
    have sound := sound_carried b.nextWorld b.intents place kept.sound
    exact kept.congr sound (carried_keeps b.nextWorld b.intents s place).2.1
  have ruled := Ruling.ofContacts_accounted known fit b.damageLog.toList b.states
    b.nextWorld.contacts moved
  have settled : b.roster.Each
      (FighterState.Accounted (b.damageLog.toList ++ b.ruling.damage)) b.settled :=
    ruled.map _ fun kept => kept.congr (kept.sound.cool _) rfl
  refine ⟨b.tickOnce_roster, ?_⟩
  rw [tickOnce_states, tickOnce_log]
  exact settled

theorem steps_accounted (entered : r.Entered) (healthy : r.Healthy) (a : Arena)
    (c : MatchConfig) (n : Nat) : (steps n (start r a c)).Accounted r :=
  steps_invariant (P := fun b => b.Accounted r)
    (fun _ _ account => account.tickOnce entered healthy) n (start_accounted entered healthy a c)

/-- Replaying the events against a fighter from its maximum gives exactly its hit
points; it is alive exactly when that is positive; and before the last of these
events the replay is positive too, so nothing is logged against a destroyed
fighter. -/
theorem damage_log_replays (entered : r.Entered) (healthy : r.Healthy) (a : Arena)
    (c : MatchConfig) (n : Nat) {place : Nat} {e : Entrant} (lookup : r.get? place = some e) :
    let b := steps n (start r a c)
    let events := e.suffered b.damageLog.toList
    ∃ s, b.states[place]? = some s ∧ e.replay events = s.hp ∧
      (s.isAlive = true ↔ 0 < e.replay events) ∧
      ∀ k, k < events.length → 0 < e.replay (events.take k) := by
  intro b events
  have account : b.Accounted r := steps_accounted entered healthy a c n
  have inside : place < b.states.length := by
    obtain ⟨inside, -⟩ := List.getElem?_eq_some_iff.mp lookup
    exact account.fighters.length.symm ▸ inside
  have state := List.getElem?_eq_getElem inside
  have kept := account.fighters.holds lookup state
  refine ⟨_, state, kept.exact, ?_, kept.alive⟩
  rw [kept.exact]
  exact kept.sound.alive

/-- The log of ten seconds of a duel accounts for the heavy fighter. -/
theorem duel_log_replays :
    Roster.duel.Entered ∧ Roster.duel.Healthy ∧
      ∃ e s, Roster.duel.get? 1 = some e ∧ e.id = "smith" ∧
        (steps 600 (start .duel .plain .usual)).states[1]? = some s ∧
        e.replay (e.suffered (steps 600 (start .duel .plain .usual)).damageLog.toList) =
          s.hp := by
  refine ⟨Roster.duel_entered, Roster.duel_healthy, ?_⟩
  have second : Roster.duel.get? 1 = some (.of Roster.smith ⟨600, 300⟩ .stock) := rfl
  obtain ⟨s, state, replays, -⟩ :=
    damage_log_replays Roster.duel_entered Roster.duel_healthy .plain .usual 600 second
  exact ⟨_, s, second, rfl, state, replays⟩

end Battle

end RobotCombat
