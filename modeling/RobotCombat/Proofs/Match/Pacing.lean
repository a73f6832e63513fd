/-
# RobotCombat.Proofs.Match.Pacing — a session plays the match that runs headless

A session is used by calls, and however frames are cut and pauses are set, its
match has taken exactly the ticks that its frames reported, one after the other from
the start (`Paced`). So the match that a session finishes is the one that `run`
finishes.

* `Progress.run_ticks`: a frame runs some ticks of the match and reports their number;
* `Progress.run_add`: the bound of a frame never ends it early;
* `session_plays_headless`: calls that do not drop the match leave it paced, and the
  record taken at the end is that of `runBattle`.
-/
import RobotCombat.Match.Session
import RobotCombat.Proofs.Match.Verdict

namespace RobotCombat

set_option autoImplicit false

open Number

/-! ## The ticks of a frame -/

namespace Session

namespace Progress

variable (tellsStates tellsDamage : Bool)

theorem run_of_isFinished {p : Progress} (ended : p.battle.isFinished = true) :
    ∀ bound, run tellsStates tellsDamage bound p = p
  | 0 => rfl
  | bound + 1 => by
      rw [run, if_pos ended]

theorem run_of_timeless {p : Progress} (going : p.battle.isFinished = false)
    (timeless : p.battle.config.tickMs ≤ 0) (bound : Nat) :
    run tellsStates tellsDamage (bound + 1) p = p.advance tellsStates tellsDamage := by
  rw [run, going, if_neg (by decide), if_pos timeless]

/-- A frame runs some ticks of a match that goes on and reports their number. -/
theorem run_ticks :
    ∀ (bound : Nat) (p : Progress), ∃ k,
      (run tellsStates tellsDamage bound p).battle = p.battle.steps k ∧
        (run tellsStates tellsDamage bound p).ticks = p.ticks + k ∧
        (∀ j, j < k → (p.battle.steps j).isFinished = false)
  | 0, p => ⟨0, rfl, rfl, fun _ below => by omega⟩
  | bound + 1, p => by
      rw [run]
      cases going : p.battle.isFinished with
      | true => exact ⟨0, rfl, rfl, fun _ below => by omega⟩
      | false =>
          have first : ∀ j, j < 1 → (p.battle.steps j).isFinished = false := by
            intro j below
            obtain rfl : j = 0 := by omega
            exact going
          rw [if_neg (by decide)]
          split
          · exact ⟨1, rfl, rfl, first⟩
          · split
            · obtain ⟨k, battle, ticks, before⟩ := run_ticks bound
                (p.advance tellsStates tellsDamage)
              refine ⟨k + 1, battle, ?_, ?_⟩
              · rw [ticks]
                show p.ticks + 1 + k = p.ticks + (k + 1)
                omega
              · intro j below
                cases j with
                | zero => exact going
                | succ j => exact before j (by omega)
            · exact ⟨0, rfl, rfl, fun _ below => by omega⟩

/-- One more tick in the bound of a frame, or any number of them, changes nothing:
the bound leaves room for all the ticks that the match can last. -/
theorem run_add (more : Nat) :
    ∀ (bound : Nat) (p : Progress),
      max 1 (p.battle.config.maxTicks - p.battle.tick) ≤ bound →
      run tellsStates tellsDamage (bound + more) p = run tellsStates tellsDamage bound p
  | 0, p, enough => by omega
  | bound + 1, p, enough => by
      rw [Nat.succ_add, run, run]
      cases going : p.battle.isFinished with
      | true => rfl
      | false =>
          simp only [Bool.false_eq_true, if_false]
          split
          · rfl
          · split
            · have first : (p.advance tellsStates tellsDamage).battle = p.battle.tickOnce :=
                Battle.step_of_not_isFinished going
              cases later : p.battle.tickOnce.isFinished with
              | true =>
                  have ended : (p.advance tellsStates tellsDamage).battle.isFinished = true :=
                    first ▸ later
                  rw [run_of_isFinished _ _ ended, run_of_isFinished _ _ ended]
              | false =>
                  apply run_add more bound
                  have left := (Battle.going_after_tickOnce later).2
                  rw [first, Battle.tickOnce_config, Battle.tickOnce_tick]
                  omega
            · rfl

end Progress

/-! ## Calls -/

/-- What a user of a session can ask for. -/
inductive Call where
  | enter (b : Build) (spawn : Vector2)
  | tick (deltaMs : Float32)
  | pause
  | resume
  | subscribeStates
  | subscribeDamage
  | reset
  | takeResult

/-- What a call returns, and what subscribers hear meanwhile. -/
inductive Answer where
  | entered (place : Nat)
  | refused (error : EntryError)
  | ran (ticks : Nat) (told : List Notice)
  | took (record : Option MatchResult)
  | done

/-- The ticks that an answer reports. -/
def Answer.ticks : Answer → Nat
  | .ran ticks _ => ticks
  | _ => 0

/-- Whether a call leaves the match in the session. -/
def Call.keepsMatch : Call → Bool
  | .reset | .takeResult => false
  | _ => true

/-- One call. -/
def perform (s : Session) : Call → Session × Answer
  | .enter b spawn =>
    match s.addFighter b spawn with
    | .ok after => (after, .entered s.roster.size)
    | .error e => (s, .refused e)
  | .tick deltaMs => ((s.tick deltaMs).session, .ran (s.tick deltaMs).ticks (s.tick deltaMs).told)
  | .pause => (s.pause, .done)
  | .resume => (s.resume, .done)
  | .subscribeStates => (s.subscribeStates, .done)
  | .subscribeDamage => (s.subscribeDamage, .done)
  | .reset => (s.reset, .done)
  | .takeResult => (s.takeResult.2, .took s.takeResult.1)

/-- Calls one after the other, with their answers. -/
def performAll : Session → List Call → Session × List Answer
  | s, [] => (s, [])
  | s, call :: calls =>
    let (after, answer) := s.perform call
    let (last, answers) := after.performAll calls
    (last, answer :: answers)

/-- A session whose match has taken `n` ticks since it started, all of them real. -/
structure Paced (c : Catalog) (a : Arena) (m : MatchConfig) (n : Nat) (s : Session) : Prop where
  catalog : s.catalog = c
  arena : s.arena = a
  config : s.config = m
  roster : s.roster.Entered
  unstarted : s.battle = none → n = 0
  played : ∀ {b : Battle}, s.battle = some b → b = .steps n (.start s.roster a m)
  going : ∀ {j : Nat}, j < n → (Battle.steps j (.start s.roster a m)).isFinished = false

variable {c : Catalog} {a : Arena} {m : MatchConfig} {n : Nat} {s : Session}

theorem new_paced (c : Catalog) (arenaId : String) (config : MatchConfig) :
    (new c arenaId config).Paced c (c.arenaOrFallback arenaId) config 0 where
  catalog := rfl
  arena := rfl
  config := rfl
  roster := .empty
  unstarted := fun _ => rfl
  played := fun impossible => by cases impossible
  going := fun impossible => by cases impossible

/-- The match that a frame goes on with. -/
theorem Paced.battleOrStart (paced : s.Paced c a m n) :
    s.battleOrStart = .steps n (.start s.roster a m) := by
  unfold Session.battleOrStart
  cases started : s.battle with
  | some b => exact paced.played started
  | none =>
      rw [paced.unstarted started, paced.arena, paced.config]
      rfl

/-- A session that is paused or whose match is over does not react to frames. -/
theorem tick_of_idle (idle : s.paused = true ∨ s.isFinished = true) (deltaMs : Float32) :
    s.tick deltaMs = ⟨s, 0, []⟩ := by
  unfold tick
  rcases idle with paused | ended
  · rw [paused, if_pos (Bool.true_or _)]
  · rw [ended, if_pos (Bool.or_true _)]

/-- A frame adds the ticks that it reports. -/
theorem Paced.tick (paced : s.Paced c a m n) (deltaMs : Float32) :
    (s.tick deltaMs).session.Paced c a m (n + (s.tick deltaMs).ticks) := by
  unfold Session.tick
  by_cases idle : (s.paused || s.isFinished) = true
  · rw [if_pos idle]
    exact paced
  · rw [if_neg idle]
    dsimp only
    rw [paced.battleOrStart]
    generalize max 1 (_ - _) = bound
    obtain ⟨k, battle, ticks, before⟩ := Progress.run_ticks s.tellsStates s.tellsDamage bound
      ⟨.steps n (.start s.roster a m), s.accumulatedMs + frameMs deltaMs, 0, []⟩
    rw [Nat.zero_add] at ticks
    rw [← Battle.steps_add] at battle
    rw [ticks]
    refine ⟨paced.catalog, paced.arena, paced.config, paced.roster, ?_, ?_, ?_⟩
    · intro impossible
      cases impossible
    · intro b same
      exact (Option.some.inj same).symm.trans battle
    · intro j below
      rcases Nat.lt_or_ge j n with early | late
      · exact paced.going early
      · obtain ⟨i, rfl⟩ : ∃ i, j = n + i := ⟨j - n, by omega⟩
        rw [Battle.steps_add]
        exact before i (by omega)

theorem addFighter_of_started {b : Battle} (started : s.battle = some b) (f : Build)
    (spawn : Vector2) : s.addFighter f spawn = .error (.alreadyStarted f.id) := by
  unfold addFighter isStarted
  rw [started]
  exact if_pos rfl

/-- Before the match it is up to the roster whether a fighter enters. -/
theorem addFighter_of_unstarted (unstarted : s.battle = none) (f : Build) (spawn : Vector2) :
    s.addFighter f spawn =
      (s.roster.add f spawn s.catalog).map fun r => { s with roster := r } := by
  have waiting : s.isStarted = false := by
    rw [isStarted, unstarted]
    rfl
  unfold addFighter
  rw [waiting]
  exact if_neg (by decide)

/-- So fighters enter a session only before its match, and only its roster changes. -/
theorem addFighter_eq_ok_iff {f : Build} {spawn : Vector2} {s' : Session} :
    s.addFighter f spawn = .ok s' ↔
      s.battle = none ∧
        ∃ r, s.roster.add f spawn s.catalog = .ok r ∧ s' = { s with roster := r } := by
  rcases Option.eq_none_or_eq_some s.battle with unstarted | ⟨b, started⟩
  · rw [addFighter_of_unstarted unstarted]
    cases s.roster.add f spawn s.catalog <;> simp [Except.map, unstarted, eq_comm]
  · simp [addFighter_of_started started, started]

theorem Paced.enter (paced : s.Paced c a m n) {b : Build} {spawn : Vector2} {s' : Session}
    (accepted : s.addFighter b spawn = .ok s') : s'.Paced c a m n := by
  obtain ⟨unstarted, roster, added, rfl⟩ := addFighter_eq_ok_iff.mp accepted
  have zero : n = 0 := paced.unstarted unstarted
  exact
    { catalog := paced.catalog
      arena := paced.arena
      config := paced.config
      roster := .add paced.roster added
      unstarted := fun _ => zero
      played := by
        intro b started
        cases unstarted.symm.trans started
      going := by
        intro j below
        omega }

/-- A call that leaves the match in the session adds the ticks that it reports. -/
theorem Paced.perform (paced : s.Paced c a m n) {call : Call}
    (keeping : call.keepsMatch = true) :
    (s.perform call).1.Paced c a m (n + (s.perform call).2.ticks) := by
  cases call with
  | enter b spawn =>
      unfold Session.perform
      dsimp only
      cases accepted : s.addFighter b spawn with
      | ok after => exact paced.enter accepted
      | error e => exact paced
  | tick deltaMs => exact paced.tick deltaMs
  | pause => exact { paced with }
  | resume => exact { paced with }
  | subscribeStates => exact { paced with }
  | subscribeDamage => exact { paced with }
  | reset => cases keeping
  | takeResult => cases keeping

theorem Paced.performAll :
    ∀ (calls : List Call) {n : Nat} {s : Session}, s.Paced c a m n →
      (∀ call ∈ calls, call.keepsMatch = true) →
      (s.performAll calls).1.Paced c a m
        (n + ((s.performAll calls).2.map Answer.ticks).sum)
  | [], _, _, paced, _ => paced
  | call :: calls, n, s, paced, keeping => by
      have first := paced.perform (keeping call List.mem_cons_self)
      have rest := performAll calls first fun other member =>
        keeping other (List.mem_cons_of_mem call member)
      unfold Session.performAll
      dsimp only
      rw [List.map_cons, List.sum_cons, ← Nat.add_assoc]
      exact rest

/-- The record of a finished session of two fighters at their spawn points is that of
the headless match. -/
theorem Paced.takeResult {arenaId : String} (paced : s.Paced c (c.arenaOrFallback arenaId) m n)
    (ended : s.isFinished = true) {f g : Build}
    (two : s.roster.entrants =
      [.of f (m.spawnFractions.1.scaleBy (c.arenaOrFallback arenaId).size) c,
        .of g (m.spawnFractions.2.scaleBy (c.arenaOrFallback arenaId).size) c]) :
    s.takeResult.1 = some (runBattle f g arenaId c m) := by
  unfold isFinished at ended
  unfold Session.takeResult
  cases started : s.battle with
  | none =>
      rw [started] at ended
      cases ended
  | some b =>
      rw [started] at ended
      dsimp only at ended ⊢
      rw [if_pos ended]
      have distinct : f.id ≠ g.id := by
        have nodup := paced.roster.distinct
        rw [two, List.map_cons, List.nodup_cons] at nodup
        exact fun same => nodup.1 (List.mem_singleton.mpr same)
      have first : Battle.start s.roster (c.arenaOrFallback arenaId) m =
          battleOf f g arenaId c m := by
        show _ = Battle.start (pairing f g (c.arenaOrFallback arenaId) c m) _ m
        rw [pairing_eq, Build.beside, if_neg distinct, ← two]
      have played := paced.played started
      have going := fun k below => paced.going (j := k) below
      rw [first] at played going
      rw [played] at ended ⊢
      rw [Battle.steps_eq_run rfl going ended]
      rfl

/-- A session is a headless match in frames. Whatever calls are made, short of a reset
and of taking the result: once started the match has taken the ticks that the frames
reported, all of them real, from the start; a frame while paused or after the end
changes nothing; and at the end of a match of two fighters at their spawn points the
record is that of `runBattle`. -/
theorem session_plays_headless (c : Catalog) (arenaId : String) (m : MatchConfig)
    (calls : List Call) (keeping : ∀ call ∈ calls, call.keepsMatch = true) :
    let arena := c.arenaOrFallback arenaId
    let s := ((new c arenaId m).performAll calls).1
    let n := (((new c arenaId m).performAll calls).2.map Answer.ticks).sum
    let first := Battle.start s.roster arena m
    (s.battle = none → n = 0) ∧
    (∀ b, s.battle = some b → b = .steps n first ∧ b.tick = n ∧
      ∀ j, j < n → (Battle.steps j first).isFinished = false) ∧
    (s.paused = true ∨ s.isFinished = true → ∀ deltaMs, s.tick deltaMs = ⟨s, 0, []⟩) ∧
    (s.isFinished = true → ∀ f g : Build,
      s.roster.entrants = [.of f (m.spawnFractions.1.scaleBy arena.size) c,
        .of g (m.spawnFractions.2.scaleBy arena.size) c] →
      s.takeResult.1 = some (runBattle f g arenaId c m)) := by
  intro arena s n first
  have paced : s.Paced c arena m n := by
    have whole := (new_paced c arenaId m).performAll calls keeping
    rw [Nat.zero_add] at whole
    exact whole
  refine ⟨paced.unstarted, ?_, tick_of_idle, fun ended f g two => paced.takeResult ended two⟩
  intro b started
  have played := paced.played started
  refine ⟨played, ?_, fun j below => paced.going below⟩
  rw [played, Battle.tick_of_steps fun k below => paced.going below]
  exact Nat.zero_add n

/-- Where ticks take no time a frame is one tick long. -/
theorem tick_of_timeless {b : Battle} (active : (s.paused || s.isFinished) = false)
    (playing : s.battleOrStart = b) (going : b.isFinished = false)
    (timeless : b.config.tickMs ≤ 0) (deltaMs : Float32) :
    (s.tick deltaMs).ticks = 1 ∧ (s.tick deltaMs).session.battle = some b.tickOnce := by
  obtain ⟨bound, last⟩ : ∃ bound, max 1 (b.config.maxTicks - b.tick) = bound + 1 :=
    ⟨max 1 (b.config.maxTicks - b.tick) - 1, by omega⟩
  have first : b.step = b.tickOnce := Battle.step_of_not_isFinished going
  have frame := Progress.run_of_timeless s.tellsStates s.tellsDamage
    (p := ⟨b, s.accumulatedMs + frameMs deltaMs, 0, []⟩) going timeless bound
  unfold tick
  rw [active, playing]
  dsimp only
  rw [last, frame]
  refine ⟨rfl, ?_⟩
  show some b.step = some b.tickOnce
  rw [first]

/-- It is also the last tick of the match. -/
theorem tickOnce_of_timeless {b : Battle} (timeless : b.config.tickMs ≤ 0) :
    b.tickOnce.isFinished = true := by
  have cap : b.config.maxTicks = 0 := by
    unfold MatchConfig.maxTicks
    rw [if_pos timeless]
  by_contra going
  have left := (Battle.going_after_tickOnce (Bool.eq_false_iff.mpr going)).2
  omega

/-- A match whose ticks take no time. -/
def timeless : MatchConfig := { MatchConfig.usual with tickMs := 0 }

/-- Two fighters enter a cage at their spawn points, and a frame passes in a pause. -/
def opening : List Call :=
  let size := (Catalog.stock.arenaOrFallback "cage").size
  [.enter Roster.sawyer (timeless.spawnFractions.1.scaleBy size),
    .enter Roster.smith (timeless.spawnFractions.2.scaleBy size), .pause, .tick 40, .resume]

/-- The next frame is the whole match, and its record the headless one. -/
theorem timeless_plays_headless :
    let calls := opening ++ [.tick 40]
    let s := ((new .stock "cage" timeless).performAll calls).1
    (∀ call ∈ calls, call.keepsMatch = true) ∧ s.isFinished = true ∧
      s.takeResult.1 = some (runBattle Roster.sawyer Roster.smith "cage" .stock timeless) := by
  intro calls s
  have keeping : ∀ call ∈ calls, call.keepsMatch = true := by
    simp [calls, opening, Call.keepsMatch]
  let waiting := ((new .stock "cage" timeless).performAll opening).1
  have last : s = (waiting.tick 40).session := rfl
  have frame := tick_of_timeless (s := waiting) rfl rfl rfl (self_le zero_ne_nan) 40
  have ended : s.isFinished = true := by
    rw [last, isFinished, frame.2]
    exact tickOnce_of_timeless (self_le zero_ne_nan)
  have plays := session_plays_headless .stock "cage" timeless calls keeping
  exact ⟨keeping, ended, plays.2.2.2 ended Roster.sawyer Roster.smith rfl⟩

end Session

end RobotCombat
