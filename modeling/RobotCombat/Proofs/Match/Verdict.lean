/-
# RobotCombat.Proofs.Match.Verdict — a match ends in time, with the verdict of its states

The cap is looked at after every tick, so a match that is not over has ticks left
(`going_after_tickOnce`) and `run` needs no more steps than it is given (`run_eq_steps`).
How it ends is read off the states after the last tick (`outcomeOf?_cases`): with
fewer than two alive the one that is left wins, with two alive the time is up.

* `run_reaches_verdict`: a match of two builds ends after at least one tick and at
  most `max 1 maxTicks`, and its record says what its final states say.
-/
import RobotCombat.Proofs.Fighter.Entered
import RobotCombat.Proofs.Match.Tick

namespace RobotCombat

set_option autoImplicit false

/-! ## Reading a verdict off the states -/

/-- The fighters that are not destroyed. -/
def living (states : List FighterState) : List FighterState := states.filter (·.isAlive)

namespace Battle

/-- A match goes on exactly while two are alive and time is left. -/
theorem outcomeOf?_eq_none_iff (c : MatchConfig) (tick : Nat) (states : List FighterState) :
    outcomeOf? c tick states = none ↔ 1 < (living states).length ∧ tick < c.maxTicks := by
  unfold outcomeOf? standing living
  dsimp only
  by_cases more : 1 < (states.filter (·.isAlive)).length
  · rw [decide_eq_true more, if_neg (by decide)]
    by_cases up : c.maxTicks ≤ tick
    · simp [up]
    · simp [up, more, Nat.lt_of_not_le up]
  · simp [more]

/-- How a match ends: with fewer than two alive, or with its time up. -/
theorem outcomeOf?_cases {c : MatchConfig} {tick : Nat} {states : List FighterState} {o : Outcome}
    (ended : outcomeOf? c tick states = some o) :
    ((living states).length ≤ 1 ∧ o = ⟨(living states).head?.map (·.id), false⟩) ∨
      (1 < (living states).length ∧ c.maxTicks ≤ tick ∧ o = ⟨none, true⟩) := by
  unfold outcomeOf? standing at ended
  unfold living
  dsimp only at ended
  by_cases more : 1 < (states.filter (·.isAlive)).length
  · rw [decide_eq_true more, if_neg (by decide)] at ended
    right
    split at ended
    · rename_i up
      exact ⟨more, up, (Option.some.inj ended).symm⟩
    · cases ended
  · rw [decide_eq_false more, if_pos (by decide)] at ended
    left
    exact ⟨Nat.le_of_not_lt more, (Option.some.inj ended).symm⟩

/-- Of at most two fighters the winner is the only one alive, and time runs out on
two. -/
theorem outcomeOf?_says {c : MatchConfig} {tick : Nat} {states : List FighterState} {o : Outcome}
    (ended : outcomeOf? c tick states = some o) (few : states.length ≤ 2) :
    (∀ id, o.winner = some id ↔ (living states).map (·.id) = [id]) ∧
      (o.timedOut = true ↔ (living states).length = 2) ∧
      (o.timedOut = true → c.maxTicks ≤ tick) ∧
      (o.winner = none ∧ o.timedOut = false ↔ living states = []) := by
  have atMost : (living states).length ≤ 2 := (List.length_filter_le _ _).trans few
  rcases outcomeOf?_cases ended with ⟨atMostOne, rfl⟩ | ⟨more, up, rfl⟩
  · match living states, atMostOne with
    | [], _ => simp
    | [s], _ => simp
  · refine ⟨fun id => ?_, ?_, fun _ => up, ?_⟩
    · constructor
      · intro impossible
        cases impossible
      · intro one
        have length := congrArg List.length one
        rw [List.length_map, List.length_singleton] at length
        omega
    · simp only [true_iff]
      omega
    · constructor
      · rintro ⟨-, early⟩
        cases early
      · intro empty
        rw [empty] at more
        cases more

/-! ## The cap -/

theorem isFinished_eq_false_iff (b : Battle) : b.isFinished = false ↔ b.outcome = none := by
  unfold isFinished
  cases b.outcome <;> simp

/-- After a tick the match is judged by its states and its tick. -/
theorem outcome_of_steps {b : Battle} {k : Nat} (going : (steps k b).isFinished = false) :
    (steps (k + 1) b).outcome =
      outcomeOf? b.config (steps (k + 1) b).tick (steps (k + 1) b).states := by
  rw [steps_succ_of_going going, tickOnce_outcome, tickOnce_tick, tickOnce_states, verdict,
    steps_config]

/-- As long as the match goes on every step is a tick. -/
theorem tick_of_steps {b : Battle} :
    ∀ {n : Nat}, (∀ k, k < n → (steps k b).isFinished = false) → (steps n b).tick = b.tick + n
  | 0, _ => rfl
  | n + 1, going => by
      have before := tick_of_steps fun k below => going k (Nat.lt_succ_of_lt below)
      rw [steps_succ_of_going (going n (Nat.lt_succ_self n)), tickOnce_tick, before, Nat.add_assoc]

/-- A match that goes on after a tick has two alive and ticks left. -/
theorem going_after_tickOnce {b : Battle} (going : b.tickOnce.isFinished = false) :
    1 < (living b.tickOnce.states).length ∧ b.tick + 1 < b.config.maxTicks := by
  rw [isFinished_eq_false_iff, tickOnce_outcome] at going
  rw [tickOnce_states]
  exact (outcomeOf?_eq_none_iff _ _ _).mp going

theorem going_after_steps {b : Battle} {k : Nat}
    (going : ∀ i, i ≤ k + 1 → (steps i b).isFinished = false) :
    1 < (living (steps (k + 1) b).states).length ∧ b.tick + (k + 1) < b.config.maxTicks := by
  have last := going (k + 1) le_rfl
  rw [steps_succ_of_going (going k (Nat.le_succ k))] at last ⊢
  have tick : (steps k b).tick = b.tick + k :=
    tick_of_steps fun i below => going i (Nat.le_succ_of_le (Nat.le_of_lt below))
  have left := going_after_tickOnce last
  rw [tick, steps_config] at left
  exact left

/-- Stepping up to a bound is a number of ticks, fewer than the bound only if the
match is over. -/
theorem runFor_eq_steps :
    ∀ (bound : Nat) (b : Battle), ∃ n, n ≤ bound ∧ runFor bound b = steps n b ∧
      (∀ k, k < n → (steps k b).isFinished = false) ∧
      (n < bound → (steps n b).isFinished = true)
  | 0, b => ⟨0, le_rfl, rfl, fun _ below => by omega, fun below => by omega⟩
  | bound + 1, b => by
      unfold runFor
      cases going : b.isFinished with
      | true =>
          refine ⟨0, Nat.zero_le _, rfl, fun _ below => by omega, fun _ => going⟩
      | false =>
          obtain ⟨n, within, same, before, stopped⟩ := runFor_eq_steps bound b.tickOnce
          have first : b.step = b.tickOnce := step_of_not_isFinished going
          refine ⟨n + 1, by omega, ?_, ?_, ?_⟩
          · rw [steps, first, ← same]
            rfl
          · intro k below
            cases k with
            | zero => exact going
            | succ k =>
                rw [steps, first]
                exact before k (by omega)
          · intro below
            rw [steps, first]
            exact stopped (by omega)

/-- A match that is not over comes to its end by ticks, at least one and no more than
the cap leaves it. -/
theorem run_eq_steps {b : Battle} (going : b.isFinished = false) :
    ∃ n, 1 ≤ n ∧ n ≤ max 1 (b.config.maxTicks - b.tick) ∧ b.run = steps n b ∧
      (∀ k, k < n → (steps k b).isFinished = false) ∧ (steps n b).isFinished = true := by
  obtain ⟨n, within, same, before, stopped⟩ :=
    runFor_eq_steps (max 1 (b.config.maxTicks - b.tick)) b
  have ended : (steps n b).isFinished = true := by
    by_contra unended
    have goes : ∀ i, i ≤ n → (steps i b).isFinished = false := by
      intro i upTo
      rcases Nat.lt_or_eq_of_le upTo with below | rfl
      · exact before i below
      · exact Bool.eq_false_iff.mpr unended
    -- then all steps of the bound were taken, and the last one met the cap
    have all : n = max 1 (b.config.maxTicks - b.tick) := by
      by_contra fewer
      exact unended (stopped (by omega))
    obtain ⟨k, rfl⟩ : ∃ k, n = k + 1 := ⟨n - 1, by omega⟩
    have left := (going_after_steps goes).2
    omega
  have positive : 1 ≤ n := by
    by_contra nothing
    have zero : n = 0 := by omega
    rw [zero, steps, going] at ended
    cases ended
  exact ⟨n, positive, within, same, before, ended⟩

/-- A match ends with the fighters it began with, in their places. -/
theorem run_ids {b : Battle} (going : b.isFinished = false) :
    b.run.states.map (·.id) = b.states.map (·.id) := by
  obtain ⟨n, -, -, same, -, -⟩ := run_eq_steps going
  rw [same]
  exact steps_ids b n

/-- Ticks of a match that goes on lead to its end only where `run` does. -/
theorem steps_eq_run {b : Battle} (going : b.isFinished = false) {n : Nat}
    (before : ∀ k, k < n → (steps k b).isFinished = false)
    (ended : (steps n b).isFinished = true) : steps n b = b.run := by
  obtain ⟨m, -, -, same, earlier, last⟩ := run_eq_steps going
  rcases Nat.lt_trichotomy n m with below | rfl | above
  · rw [earlier n below] at ended
    cases ended
  · exact same.symm
  · rw [before m above] at last
    cases last

/-- A match that has not begun runs to a tick whose number and states decide its
outcome. -/
theorem run_judged {b : Battle} (going : b.isFinished = false) (fresh : b.tick = 0) :
    ∃ n o, 1 ≤ n ∧ n ≤ max 1 b.config.maxTicks ∧ b.run = steps n b ∧ b.run.tick = n ∧
      b.run.outcome = some o ∧ outcomeOf? b.config n b.run.states = some o ∧
      (∀ k, k < n → (steps k b).isFinished = false) ∧
      (∀ k, 1 ≤ k → k < n → 1 < (living (steps k b).states).length ∧ k < b.config.maxTicks) := by
  obtain ⟨n, positive, within, same, before, ended⟩ := run_eq_steps going
  have tick : b.run.tick = n := by
    rw [same, tick_of_steps before, fresh]
    exact Nat.zero_add n
  obtain ⟨k, rfl⟩ : ∃ k, n = k + 1 := ⟨n - 1, by omega⟩
  obtain ⟨o, outcome⟩ : ∃ o, b.run.outcome = some o := by
    rw [← same] at ended
    exact Option.isSome_iff_exists.mp ended
  refine ⟨k + 1, o, positive, ?_, same, tick, outcome, ?_, before, ?_⟩
  · rw [fresh] at within
    exact within
  · have judged := outcome_of_steps (before k (Nat.lt_succ_self k))
    rw [← same, outcome, tick] at judged
    exact judged.symm
  · intro i positive below
    obtain ⟨j, rfl⟩ : ∃ j, i = j + 1 := ⟨i - 1, by omega⟩
    have left := going_after_steps fun k upTo => before k (Nat.lt_of_le_of_lt upTo below)
    rw [fresh, Nat.zero_add] at left
    exact left

/-! ## The record of a match -/

theorem result_winner {b : Battle} {o : Outcome} (ended : b.outcome = some o) :
    b.result.winner = o.winner := by
  unfold result
  rw [ended]
  rfl

theorem result_timedOut {b : Battle} {o : Outcome} (ended : b.outcome = some o) :
    b.result.timedOut = o.timedOut := by
  unfold result
  rw [ended]

theorem result_ids (b : Battle) :
    b.result.finalStates.map (·.id) = b.states.map (·.id) := by
  unfold result
  rw [List.map_map]
  rfl

/-- The living among the final states of a record. -/
theorem result_living (b : Battle) :
    b.result.finalStates.filter (·.isAlive) = (living b.states).map FinalState.of := by
  unfold result living
  rw [List.filter_map]
  rfl

end Battle

/-! ## Two builds on an arena -/

/-- A build beside another one: under another id if the ids clash. -/
def Build.beside (b a : Build) : Build :=
  if a.id = b.id then b.withId (b.id ++ "#2") else b

theorem Build.beside_id (b a : Build) :
    (b.beside a).id = if a.id = b.id then a.id ++ "#2" else b.id := by
  unfold beside
  by_cases clash : a.id = b.id
  · rw [if_pos clash, if_pos clash, clash]
    rfl
  · rw [if_neg clash, if_neg clash]

theorem Build.beside_id_ne (b a : Build) : a.id ≠ (b.beside a).id := by
  rw [beside_id]
  split
  · intro same
    have length := congrArg String.length same
    rw [String.length_append] at length
    have longer : "#2".length = 2 := rfl
    omega
  · rename_i different
    exact different

/-- Both builds are entered. -/
theorem pairing_eq (a b : Build) (arena : Arena) (c : Catalog) (config : MatchConfig) :
    pairing a b arena c config =
      ⟨[.of a (config.spawnFractions.1.scaleBy arena.size) c,
        .of (b.beside a) (config.spawnFractions.2.scaleBy arena.size) c]⟩ := by
  unfold pairing Roster.addIfPossible
  generalize config.spawnFractions.1.scaleBy arena.size = left
  generalize config.spawnFractions.2.scaleBy arena.size = right
  have first : Roster.empty.add a left c = .ok ⟨[.of a left c]⟩ := rfl
  have second : (Roster.mk [.of a left c]).add (b.beside a) right c =
      .ok ⟨[.of a left c, .of (b.beside a) right c]⟩ := by
    refine Roster.add_eq_ok_iff.mpr ⟨Nat.one_lt_two, ?_, rfl⟩
    intro e member
    obtain rfl := List.mem_singleton.mp member
    exact b.beside_id_ne a
  simp only [first]
  unfold Build.beside at second
  simp only [second]
  rfl

namespace Battle

variable (a b : Build) (arenaId : String) (c : Catalog) (config : MatchConfig)

theorem battleOf_states :
    (battleOf a b arenaId c config).states =
      (pairing a b (c.arenaOrFallback arenaId) c config).spawnStates := rfl

theorem battleOf_ids :
    (battleOf a b arenaId c config).states.map (·.id) = [a.id, (b.beside a).id] := by
  rw [battleOf_states, pairing_eq]
  rfl

theorem battleOf_living : (living (battleOf a b arenaId c config).states).length = 2 := by
  rw [battleOf_states, pairing_eq]
  rfl

/-- A match of two builds ends after at least one tick and at most `max 1 maxTicks`.
Until then two are alive and the cap is not reached. The record lists both fighters
under different ids; the winner is the only one alive at the end; the match has timed
out exactly if two are alive, and then at the cap; neither if nobody is. Stepping a
match that is over changes nothing. -/
theorem run_reaches_verdict (a b : Build) (arenaId : String) (c : Catalog)
    (config : MatchConfig) :
    let first := battleOf a b arenaId c config
    let record := runBattle a b arenaId c config
    let ids := record.finalStates.map (·.id)
    let alive := record.finalStates.filter (·.isAlive)
    (∃ n, 1 ≤ n ∧ n ≤ max 1 config.maxTicks ∧
      first.run = steps n first ∧ first.run.isFinished = true ∧ record.frameCount = n ∧
      (∀ k, k < n → (steps k first).isFinished = false ∧
        2 ≤ (living (steps k first).states).length) ∧
      (∀ k, 1 ≤ k → k < n → k < config.maxTicks)) ∧
    (ids = [a.id, if a.id = b.id then a.id ++ "#2" else b.id] ∧ ids.Nodup) ∧
    (∀ id, record.winner = some id ↔ alive.map (·.id) = [id]) ∧
    (record.timedOut = true ↔ alive.length = 2) ∧
    (record.timedOut = true → record.frameCount = max 1 config.maxTicks) ∧
    (record.winner = none ∧ record.timedOut = false ↔ alive = []) ∧
    (∀ b : Battle, b.isFinished = true → ∀ k, steps k b = b) := by
  intro first record ids alive
  obtain ⟨n, o, positive, within, same, tick, outcome, judged, going, left⟩ :=
    run_judged (b := first) rfl rfl
  have kept : first.run.states.map (·.id) = [a.id, (b.beside a).id] :=
    (run_ids rfl).trans (battleOf_ids a b arenaId c config)
  have ids_eq : ids = [a.id, (b.beside a).id] := (result_ids first.run).trans kept
  have pair : first.run.states.length = 2 := by
    have lengths := congrArg List.length kept
    rw [List.length_map] at lengths
    exact lengths
  have alive_eq : alive = (living first.run.states).map FinalState.of := result_living first.run
  have names : alive.map (·.id) = (living first.run.states).map (·.id) := by
    rw [alive_eq, List.map_map]
    rfl
  have winner : record.winner = o.winner := result_winner outcome
  have timedOut : record.timedOut = o.timedOut := result_timedOut outcome
  obtain ⟨wins, late, capped, nobody⟩ := outcomeOf?_says judged pair.le
  refine ⟨⟨n, positive, within, same, ?_, tick, ?_, fun k begun below => (left k begun below).2⟩,
    ⟨?_, ?_⟩, ?_, ?_, ?_, ?_, fun b ended => steps_of_isFinished ended⟩
  · exact Option.isSome_iff_exists.mpr ⟨o, outcome⟩
  · intro k below
    refine ⟨going k below, ?_⟩
    cases k with
    | zero => exact (battleOf_living a b arenaId c config).ge
    | succ k => exact (left (k + 1) (Nat.succ_pos k) below).1
  · rw [ids_eq, Build.beside_id]
  · rw [ids_eq, List.nodup_cons, List.mem_singleton]
    exact ⟨b.beside_id_ne a, List.nodup_singleton _⟩
  · intro id
    rw [winner, names]
    exact wins id
  · rw [timedOut, alive_eq, List.length_map]
    exact late
  · intro up
    rw [timedOut] at up
    have reached : config.maxTicks ≤ n := capped up
    have limit : n ≤ max 1 config.maxTicks := within
    have frames : record.frameCount = n := tick
    omega
  · rw [winner, timedOut, alive_eq, List.map_eq_nil_iff]
    exact nobody

end Battle

end RobotCombat
