/-
# RobotCombat.Proofs.Match.Broadcast — what subscribers hear of a match

A frame of a session tells of every tick it runs: first of the damage, then of the state
after it. So whoever has listened since before the first tick has heard the footage of the
match, however its frames were cut (`Followed`). The states heard are the frames that the
same match would have recorded, and the damage heard is the log.

* `subscribers_hear_the_match`: nothing is missing, nothing comes twice, and all of it is in
  order.
-/
import RobotCombat.Proofs.Match.History
import RobotCombat.Proofs.Match.Lifecycle

namespace RobotCombat

set_option autoImplicit false

/-! ## Notices -/

/-- What there is to hear of a tick: its damage, then the state after it. -/
def Frame.notices (f : Frame) : List Notice := f.damage.map .damage ++ [.state f]

namespace Notice

/-- The damage that a notice tells of. -/
def damage? : Notice → Option DamageEvent
  | .damage e => some e
  | .state _ => none

/-- The state that a notice tells of. -/
def state? : Notice → Option Frame
  | .damage _ => none
  | .state f => some f

end Notice

/-- The damage told of frames is their damage. -/
theorem damage_notices (frames : List Frame) :
    (frames.flatMap Frame.notices).filterMap Notice.damage? = frames.flatMap (·.damage) := by
  rw [List.filterMap_flatMap]
  refine List.flatMap_congr fun f _ => ?_
  unfold Frame.notices
  rw [List.filterMap_append, List.filterMap_map]
  have all : Notice.damage? ∘ Notice.damage = some := rfl
  rw [all, List.filterMap_some]
  exact List.append_nil f.damage

/-- The states told of frames are the frames. -/
theorem state_notices (frames : List Frame) :
    (frames.flatMap Frame.notices).filterMap Notice.state? = frames := by
  have one : ∀ f : Frame, f.notices.filterMap Notice.state? = [f] := by
    intro f
    unfold Frame.notices
    rw [List.filterMap_append, List.filterMap_map]
    have nothing : Notice.state? ∘ Notice.damage = fun _ => none := rfl
    rw [nothing, List.filterMap_none]
    rfl
  rw [List.filterMap_flatMap, List.flatMap_congr fun f _ => one f]
  exact List.flatMap_singleton' frames

/-! ## The record of the same match -/

namespace Battle

/-- A match has the footage of its recording. -/
theorem footage_recording (r : Roster) (a : Arena) (c : MatchConfig) (n : Nat) :
    (start r a { c with recordFrames := true }).footage n = (start r a c).footage n := by
  rw [← footage_unrecorded, ← footage_unrecorded (start r a c), start_unrecorded, start_unrecorded]

/-- The first ticks of a match are the first frames of its recording. -/
theorem footage_eq_take {r : Roster} {a : Arena} {c : MatchConfig} {n : Nat}
    (going : ∀ j, j < n → (steps j (start r a c)).isFinished = false) :
    let record := (start r a { c with recordFrames := true }).run.result
    n ≤ record.frames.length ∧ (start r a c).footage n = record.frames.take n := by
  intro record
  obtain ⟨k, -, -, before, ended, kept⟩ :=
    frames_of_run (b := start r a { c with recordFrames := true }) rfl rfl rfl
  change record.frames = _ at kept
  have alike : ∀ j, (steps j (start r a c)).isFinished =
      (steps j (start r a { c with recordFrames := true })).isFinished := by
    intro j
    have unrecorded : (steps j (start r a c)).unrecorded =
        (steps j (start r a { c with recordFrames := true })).unrecorded := by
      rw [← steps_unrecorded, ← steps_unrecorded, start_unrecorded, start_unrecorded]
    have same := congrArg isFinished unrecorded
    exact same
  have within : n ≤ k := by
    by_contra above
    have unended := going k (Nat.lt_of_not_le above)
    rw [alike, ended] at unended
    cases unended
  rw [kept, length_footage, take_footage _ within, footage_recording]
  exact ⟨within, rfl⟩

end Battle

namespace Session

/-! ## What a frame tells -/

/-- What subscribers hear during a call. -/
def Answer.told : Answer → List Notice
  | .ran _ told => told
  | _ => []

/-- A frame tells both subscribers of all the ticks it runs. -/
theorem Progress.run_told :
    ∀ (bound : Nat) (p : Progress) {k : Nat}, (run true true bound p).ticks = p.ticks + k →
      (run true true bound p).told = p.told ++ (p.battle.footage k).flatMap Frame.notices
  | 0, p, k, ticks => by
      obtain rfl : k = 0 := Nat.left_eq_add.mp ticks
      exact (List.append_nil _).symm
  | bound + 1, p, k, ticks => by
      have first : (p.advance true true).told =
          p.told ++ (p.battle.footage 1).flatMap Frame.notices := by
        have one : p.battle.footage 1 = [p.battle.step.snapshot] := rfl
        rw [one, List.flatMap_singleton]
        rfl
      cases ended : p.battle.isFinished with
      | true =>
          rw [run_of_isFinished true true ended] at ticks ⊢
          obtain rfl : k = 0 := Nat.left_eq_add.mp ticks
          exact (List.append_nil _).symm
      | false =>
          rw [run, ended, if_neg (by decide)] at ticks ⊢
          split at ticks
          · rename_i timeless
            rw [if_pos timeless]
            obtain rfl : k = 1 := (Nat.add_left_cancel ticks).symm
            exact first
          · rename_i timed
            rw [if_neg timed]
            split at ticks
            · rename_i enough
              rw [if_pos enough]
              obtain ⟨later, -, counted, -⟩ := run_ticks true true bound (p.advance true true)
              have advanced : (p.advance true true).ticks = p.ticks + 1 := rfl
              obtain rfl : k = 1 + later := by omega
              have onward : p.battle.steps 1 = (p.advance true true).battle := rfl
              rw [run_told bound _ counted, first, Battle.footage_add, List.flatMap_append,
                onward, List.append_assoc]
            · rename_i early
              rw [if_neg early]
              obtain rfl : k = 0 := Nat.left_eq_add.mp ticks
              exact (List.append_nil _).symm

variable {c : Catalog} {a : Arena} {m : MatchConfig} {n : Nat} {s : Session}

/-- A session with both subscribers, who have heard all of the match so far. -/
structure Followed (c : Catalog) (a : Arena) (m : MatchConfig) (n : Nat) (heard : List Notice)
    (s : Session) : Prop where
  paced : s.Paced c a m n
  states : s.tellsStates = true
  damage : s.tellsDamage = true
  complete : heard = ((Battle.start s.roster a m).footage n).flatMap Frame.notices

variable {heard : List Notice}

/-- A frame leaves fighters and subscribers, and tells these of the ticks it runs. -/
theorem tick_told (states : s.tellsStates = true) (damage : s.tellsDamage = true)
    (deltaMs : Float32) :
    (s.tick deltaMs).session.roster = s.roster ∧
      (s.tick deltaMs).session.tellsStates = true ∧
      (s.tick deltaMs).session.tellsDamage = true ∧
      (s.tick deltaMs).told =
        (s.battleOrStart.footage (s.tick deltaMs).ticks).flatMap Frame.notices := by
  unfold Session.tick
  split
  · exact ⟨rfl, states, damage, rfl⟩
  · dsimp only
    rw [states, damage]
    exact ⟨rfl, rfl, rfl, Progress.run_told _ ⟨_, _, 0, []⟩ (Nat.zero_add _).symm⟩

theorem Followed.tick (followed : s.Followed c a m n heard) (deltaMs : Float32) :
    (s.tick deltaMs).session.Followed c a m (n + (s.tick deltaMs).ticks)
      (heard ++ (s.tick deltaMs).told) := by
  obtain ⟨roster, states, damage, told⟩ := tick_told followed.states followed.damage deltaMs
  refine ⟨followed.paced.tick deltaMs, states, damage, ?_⟩
  rw [roster, told, followed.complete, followed.paced.battleOrStart, Battle.footage_add,
    List.flatMap_append]

/-- Fighters enter before there is anything to hear. -/
theorem Followed.enter (followed : s.Followed c a m n heard) {f : Build} {spawn : Vector2}
    {s' : Session} (accepted : s.addFighter f spawn = .ok s') : s'.Followed c a m n heard := by
  have paced := followed.paced.enter accepted
  obtain ⟨unstarted, r, -, rfl⟩ := addFighter_eq_ok_iff.mp accepted
  obtain rfl : n = 0 := followed.paced.unstarted unstarted
  exact ⟨paced, followed.states, followed.damage, followed.complete⟩

/-- So subscribers hear all of the match, whatever is called short of dropping it. -/
theorem Followed.perform (followed : s.Followed c a m n heard) {call : Call}
    (keeping : call.keepsMatch = true) :
    (s.perform call).1.Followed c a m (n + (s.perform call).2.ticks)
      (heard ++ (s.perform call).2.told) := by
  have quiet : heard ++ [] = heard := List.append_nil heard
  have paced := followed.paced.perform keeping
  cases call with
  | enter f spawn =>
      unfold Session.perform
      dsimp only
      cases accepted : s.addFighter f spawn with
      | ok after => exact quiet.symm ▸ followed.enter accepted
      | error e => exact quiet.symm ▸ followed
  | tick deltaMs => exact followed.tick deltaMs
  | pause | resume =>
      exact ⟨paced, followed.states, followed.damage, quiet.trans followed.complete⟩
  | subscribeStates => exact ⟨paced, rfl, followed.damage, quiet.trans followed.complete⟩
  | subscribeDamage => exact ⟨paced, followed.states, rfl, quiet.trans followed.complete⟩
  | reset => cases keeping
  | takeResult => cases keeping

theorem Followed.performAll :
    ∀ (calls : List Call) {n : Nat} {heard : List Notice} {s : Session},
      s.Followed c a m n heard → (∀ call ∈ calls, call.keepsMatch = true) →
      (s.performAll calls).1.Followed c a m
        (n + ((s.performAll calls).2.map Answer.ticks).sum)
        (heard ++ (s.performAll calls).2.flatMap Answer.told)
  | [], n, heard, _, followed, _ => by
      have quiet : heard ++ [] = heard := List.append_nil heard
      exact quiet.symm ▸ followed
  | call :: calls, n, heard, s, followed, keeping => by
      have first := followed.perform (keeping call List.mem_cons_self)
      have rest := performAll calls first fun other member =>
        keeping other (List.mem_cons_of_mem call member)
      rw [performAll_cons, List.map_cons, List.sum_cons, List.flatMap_cons, ← Nat.add_assoc,
        ← List.append_assoc]
      exact rest

/-- Subscribers hear a match as it was. Take any session whose match has not started and
that has both subscribers, and let any calls follow that do not drop the match. Then the
states heard so far have the numbers of the ticks that frames reported, each once and in
order, and they are the first frames of the recording of the same match; the damage heard
is the log of the match; and the damage of a tick is heard right before its state. -/
theorem subscribers_hear_the_match {c : Catalog} {arenaId : String} {m : MatchConfig}
    {earlier : List Call} {s : Session} (reached : ((new c arenaId m).performAll earlier).1 = s)
    (unstarted : s.battle = none) (states : s.tellsStates = true) (damage : s.tellsDamage = true)
    {later : List Call} (keeping : ∀ call ∈ later, call.keepsMatch = true) :
    let after := (s.performAll later).1
    let answers := (s.performAll later).2
    let n := (answers.map Answer.ticks).sum
    let heard := answers.flatMap Answer.told
    let seen := heard.filterMap Notice.state?
    let recording := Battle.start after.roster (c.arenaOrFallback arenaId)
      { m with recordFrames := true }
    (∀ b, after.battle = some b →
      b.tick = n ∧ heard.filterMap Notice.damage? = b.damageLog.toList) ∧
    (after.battle = none → heard = []) ∧
    seen.map (·.tick) = List.range' 1 n ∧
    heard = seen.flatMap (fun f => f.damage.map .damage ++ [.state f]) ∧
    n ≤ recording.run.result.frames.length ∧ seen = recording.run.result.frames.take n := by
  intro after answers n heard seen recording
  obtain ⟨k, paced⟩ := performAll_paced c arenaId m earlier
  rw [reached] at paced
  obtain rfl : k = 0 := paced.unstarted unstarted
  have followed : after.Followed c (c.arenaOrFallback arenaId) m n heard := by
    have before : s.Followed c (c.arenaOrFallback arenaId) m 0 [] := ⟨paced, states, damage, rfl⟩
    have whole := before.performAll later keeping
    rw [Nat.zero_add] at whole
    exact whole
  obtain ⟨onward, -, -, complete⟩ := followed
  have seen_eq :
      seen = (Battle.start after.roster (c.arenaOrFallback arenaId) m).footage n := by
    show heard.filterMap Notice.state? = _
    rw [complete, state_notices]
  have going := fun j below => onward.going (j := j) below
  obtain ⟨within, recorded⟩ := Battle.footage_eq_take going
  refine ⟨?_, ?_, ?_, ?_, within, seen_eq.trans recorded⟩
  · intro b started
    have played := onward.played started
    constructor
    · rw [played, Battle.tick_of_steps going]
      exact Nat.zero_add n
    · rw [complete, damage_notices, played, Battle.damageLog_of_steps going]
      rfl
  · intro waiting
    rw [complete, onward.unstarted waiting]
    rfl
  · rw [seen_eq, List.range'_eq_map_range, Battle.footage, List.map_map]
    refine List.map_congr_left fun j below => ?_
    have earlier : ∀ i, i < j + 1 → _ := fun i before =>
      going i (Nat.lt_of_lt_of_le before (List.mem_range.mp below))
    have tick := (Battle.snapshot_of_steps earlier).1
    have first : (Battle.start after.roster (c.arenaOrFallback arenaId) m).tick = 0 := rfl
    rw [first, Nat.zero_add] at tick
    exact tick.trans (Nat.add_comm j 1)
  · rw [seen_eq]
    exact complete

/-- Two fighters enter at arm's length before subscribers to everything. -/
def entrances : List Call :=
  [.subscribeStates, .subscribeDamage, .enter Roster.sawyer ⟨390, 300⟩,
    .enter Roster.smith ⟨410, 300⟩]

/-- A frame passes in a pause, and the next one has time for one tick. -/
def glimpse : List Call := [.pause, .tick 40, .resume, .tick 20]

/-- That tick is heard with the damage it does. -/
theorem glimpse_is_heard :
    let s := ((new .stock "basicPit" .usual).performAll entrances).1
    let heard := (s.performAll glimpse).2.flatMap Answer.told
    s.battle = none ∧ s.tellsStates = true ∧ s.tellsDamage = true ∧
      (∀ call ∈ glimpse, call.keepsMatch = true) ∧
      (heard.filterMap Notice.state?).map (·.tick) = [1] ∧ ∃ e, Notice.damage e ∈ heard := by
  intro s heard
  have fought : ((s.performAll glimpse).2.map Answer.ticks).sum = 1 ∧
      (heard.any fun notice => notice.damage?.isSome) = true := by decide +kernel
  have keeping : ∀ call ∈ glimpse, call.keepsMatch = true := by simp [glimpse, Call.keepsMatch]
  obtain ⟨-, -, numbers, -⟩ := subscribers_hear_the_match (s := s) rfl rfl rfl rfl keeping
  rw [fought.1] at numbers
  refine ⟨rfl, rfl, rfl, keeping, numbers, ?_⟩
  obtain ⟨notice, member, told⟩ := List.any_eq_true.mp fought.2
  cases notice with
  | damage e => exact ⟨e, member⟩
  | state f => cases told

end Session

end RobotCombat
