/-
# RobotCombat.Proofs.Match.History — the frames of a match agree with its record

A tick leaves its mark in the log, on the clock and, if the match records, in a frame. The
frame is what a snapshot after the tick shows (`tickOnce_frames`), so the frames that a
match has kept are its `footage`: the snapshots after its ticks, one after the other.
Number and time of a frame, its damage and its fighters are read off the footage.

Whether a match records is no matter of anything else: `unrecorded` is a match that keeps
no frames, and a tick is the same for both (`tickOnce_unrecorded`).

* `frames_tell_the_match`: a recorded match has a frame for every tick, in order, and they
  agree with the rest of the record.
-/
import RobotCombat.Proofs.Match.Verdict

namespace RobotCombat

set_option autoImplicit false

/-! ## Times of events -/

namespace Ruling

variable {scene : Scene} {r r' : Ruling}

theorem Change.stamps (change : Change scene r r')
    (stamped : ∀ event ∈ r.damage, event.timestamp = scene.timestamp) :
    ∀ event ∈ r'.damage, event.timestamp = scene.timestamp := by
  cases change with
  | hurt attacker cause entered lookup alive positive range blow =>
      intro event member
      rcases List.mem_append.mp member with before | now
      · exact stamped event before
      · obtain rfl := List.mem_singleton.mp now
        rfl
  | fall lookup alive =>
      intro event member
      rcases List.mem_append.mp member with before | now
      · exact stamped event before
      · obtain rfl := List.mem_singleton.mp now
        rfl
  | _ => exact stamped

/-- All damage of a tick carries its time. -/
theorem ofContacts_stamps (scene : Scene) (current next : List FighterState)
    (contacts : List Contact) :
    ∀ event ∈ (ofContacts scene current next contacts).damage,
      event.timestamp = scene.timestamp :=
  (ofContacts_reaches scene current next contacts).invariant
    (P := fun r => ∀ event ∈ r.damage, event.timestamp = scene.timestamp)
    (fun change stamped => change.stamps stamped) nofun

end Ruling

namespace Battle

variable {b : Battle}

/-! ## Footage -/

/-- The snapshots after each of the next ticks. -/
def footage (b : Battle) (n : Nat) : List Frame :=
  (List.range n).map fun k => (steps (k + 1) b).snapshot

theorem footage_succ (b : Battle) (n : Nat) :
    b.footage (n + 1) = b.footage n ++ [(steps (n + 1) b).snapshot] := by
  unfold footage
  rw [List.range_succ, List.map_append]
  rfl

theorem footage_add (b : Battle) (n k : Nat) :
    b.footage (n + k) = b.footage n ++ (steps n b).footage k := by
  unfold footage
  rw [List.range_add, List.map_append, List.map_map]
  refine congrArg (_ ++ ·) (List.map_congr_left fun j _ => ?_)
  show (steps (n + j + 1) b).snapshot = _
  rw [Nat.add_assoc, steps_add]

/-- The footage begins with that of fewer ticks. -/
theorem take_footage (b : Battle) {n k : Nat} (fewer : n ≤ k) :
    (b.footage k).take n = b.footage n := by
  unfold footage
  rw [← List.map_take, List.take_range, Nat.min_eq_left fewer]

theorem length_footage (b : Battle) (n : Nat) : (b.footage n).length = n := by
  unfold footage
  rw [List.length_map, List.length_range]

theorem footage_eq_some_iff {n k : Nat} {frame : Frame} :
    (b.footage n)[k]? = some frame ↔ k < n ∧ (steps (k + 1) b).snapshot = frame := by
  unfold footage
  rw [List.getElem?_map, Option.map_eq_some_iff]
  constructor
  · rintro ⟨i, place, rfl⟩
    obtain ⟨inside, rfl⟩ := List.getElem?_eq_some_iff.mp place
    rw [List.length_range] at inside
    rw [List.getElem_range]
    exact ⟨inside, rfl⟩
  · rintro ⟨below, rfl⟩
    exact ⟨k, List.getElem?_range below, rfl⟩

/-- The snapshot after a tick shows the ruling on it and what the fighters came to. -/
theorem tickOnce_snapshot (b : Battle) :
    b.tickOnce.snapshot = ⟨b.tick + 1, b.scene.timestamp, b.settled, b.ruling.damage⟩ := by
  rw [tickOnce_eq]
  rfl

/-- The frame that a tick records is the snapshot after it. -/
theorem tickOnce_frames (recording : b.config.recordFrames = true) :
    b.tickOnce.frames.toList = b.frames.toList ++ [b.tickOnce.snapshot] := by
  rw [tickOnce_snapshot, tickOnce_eq]
  dsimp only
  rw [if_pos recording, Array.toList_push]

/-- A recording match has kept its footage. -/
theorem frames_of_steps (recording : b.config.recordFrames = true) :
    ∀ {n : Nat}, (∀ k, k < n → (steps k b).isFinished = false) →
      (steps n b).frames.toList = b.frames.toList ++ b.footage n
  | 0, _ => (List.append_nil _).symm
  | n + 1, going => by
      have before := frames_of_steps recording fun k below => going k (Nat.lt_succ_of_lt below)
      have records : (steps n b).config.recordFrames = true := by
        rw [steps_config]
        exact recording
      rw [footage_succ, steps_succ_of_going (going n (Nat.lt_succ_self n)), tickOnce_frames records,
        before, List.append_assoc]

/-- The log is the damage of the footage. -/
theorem damageLog_of_steps :
    ∀ {n : Nat}, (∀ k, k < n → (steps k b).isFinished = false) →
      (steps n b).damageLog.toList = b.damageLog.toList ++ (b.footage n).flatMap (·.damage)
  | 0, _ => (List.append_nil _).symm
  | n + 1, going => by
      have before := damageLog_of_steps fun k below => going k (Nat.lt_succ_of_lt below)
      rw [footage_succ, steps_succ_of_going (going n (Nat.lt_succ_self n)), tickOnce_log, before,
        List.flatMap_append, List.flatMap_singleton, tickOnce_snapshot, List.append_assoc]

/-- What a frame of the footage shows: the number of the tick, the time at its end, on the
frame and on all its damage, and the fighters in their places. -/
theorem snapshot_of_steps {k : Nat} (going : ∀ j, j < k + 1 → (steps j b).isFinished = false) :
    (steps (k + 1) b).snapshot.tick = b.tick + (k + 1) ∧
      (steps (k + 1) b).snapshot.timestamp = b.config.timeAt (b.tick + (k + 1)) ∧
      (∀ event ∈ (steps (k + 1) b).snapshot.damage,
        event.timestamp = b.config.timeAt (b.tick + (k + 1))) ∧
      (steps (k + 1) b).snapshot.fighters.map (·.id) = b.states.map (·.id) := by
  have tick : (steps k b).tick = b.tick + k :=
    tick_of_steps fun j below => going j (Nat.lt_succ_of_lt below)
  have time : (steps k b).scene.timestamp = b.config.timeAt (b.tick + (k + 1)) := by
    unfold scene
    rw [tick, steps_config]
    rfl
  have ids : (steps (k + 1) b).snapshot.fighters.map (·.id) = b.states.map (·.id) :=
    steps_ids b (k + 1)
  rw [steps_succ_of_going (going k (Nat.lt_succ_self k)), tickOnce_snapshot] at ids ⊢
  refine ⟨?_, time, ?_, ids⟩
  · show (steps k b).tick + 1 = b.tick + (k + 1)
    rw [tick, Nat.add_assoc]
  · intro event member
    rw [← time]
    exact Ruling.ofContacts_stamps _ _ _ _ event member

/-! ## Matches that keep no frames -/

/-- The match without its frames. -/
def unrecorded (b : Battle) : Battle :=
  { b with config := { b.config with recordFrames := false }, frames := #[] }

section Stages

variable (b : Battle)

theorem decisions_unrecorded : b.unrecorded.decisions = b.decisions := rfl

theorem scene_unrecorded : b.unrecorded.scene = b.scene := rfl

theorem nextWorld_unrecorded : b.unrecorded.nextWorld = b.nextWorld := rfl

theorem moved_unrecorded : b.unrecorded.moved = b.moved := by
  unfold moved intents
  rw [nextWorld_unrecorded, decisions_unrecorded]
  rfl

theorem ruling_unrecorded : b.unrecorded.ruling = b.ruling := by
  unfold ruling
  rw [scene_unrecorded, moved_unrecorded, nextWorld_unrecorded]
  rfl

theorem settled_unrecorded : b.unrecorded.settled = b.settled := by
  unfold settled
  rw [ruling_unrecorded]
  rfl

theorem verdict_unrecorded : b.unrecorded.verdict = b.verdict := by
  unfold verdict
  rw [settled_unrecorded]
  rfl

/-- A tick is the same whether it is recorded or not. -/
theorem tickOnce_unrecorded : b.unrecorded.tickOnce = b.tickOnce.unrecorded := by
  rw [tickOnce_eq, tickOnce_eq, decisions_unrecorded, nextWorld_unrecorded, settled_unrecorded,
    ruling_unrecorded, verdict_unrecorded, scene_unrecorded]
  simp only [unrecorded, Bool.false_eq_true, if_false]

end Stages

theorem runFor_unrecorded :
    ∀ (n : Nat) (b : Battle), b.unrecorded.runFor n = (b.runFor n).unrecorded
  | 0, _ => rfl
  | n + 1, b => by
      have same : b.unrecorded.isFinished = b.isFinished := rfl
      rw [runFor, runFor, same]
      split
      · rfl
      · rw [tickOnce_unrecorded]
        exact runFor_unrecorded n b.tickOnce

theorem run_unrecorded (b : Battle) : b.unrecorded.run = b.run.unrecorded := by
  have bound : max 1 (b.unrecorded.config.maxTicks - b.unrecorded.tick) =
      max 1 (b.config.maxTicks - b.tick) := rfl
  rw [run, bound]
  exact runFor_unrecorded _ b

theorem start_unrecorded (r : Roster) (a : Arena) (c : MatchConfig) :
    (start r a c).unrecorded = start r a { c with recordFrames := false } := by
  simp only [unrecorded, start]

theorem steps_unrecorded :
    ∀ (n : Nat) (b : Battle), steps n b.unrecorded = (steps n b).unrecorded
  | 0, _ => rfl
  | n + 1, b => by
      have first : b.unrecorded.step = b.step.unrecorded := by
        have same : b.unrecorded.isFinished = b.isFinished := rfl
        unfold step
        rw [same]
        split
        · rfl
        · exact b.tickOnce_unrecorded
      rw [steps, steps, first]
      exact steps_unrecorded n b.step

/-- The footage does not depend on whether the match records. -/
theorem footage_unrecorded (b : Battle) (n : Nat) : b.unrecorded.footage n = b.footage n := by
  unfold footage
  refine List.map_congr_left fun k _ => ?_
  rw [steps_unrecorded]
  rfl

/-! ## The record -/

/-- A match that records has kept the footage of all its ticks when it ends. -/
theorem frames_of_run {b : Battle} (going : b.isFinished = false)
    (recording : b.config.recordFrames = true) (blank : b.frames = #[]) :
    ∃ n, 1 ≤ n ∧ b.run = steps n b ∧ (∀ k, k < n → (steps k b).isFinished = false) ∧
      (steps n b).isFinished = true ∧ b.run.frames.toList = b.footage n := by
  obtain ⟨n, positive, -, same, before, ended⟩ := run_eq_steps going
  refine ⟨n, positive, same, before, ended, ?_⟩
  rw [same, frames_of_steps recording before, blank]
  rfl

/-- In a match that records there is a frame for every tick. The frames have the numbers of
the ticks and the times at their ends, which are the times of their damage too; they list
the fighters in roster order; their damage makes up the log; and the last of them shows the
final states and the duration. The match without recording has the same record but for the
frames. -/
theorem frames_tell_the_match (r : Roster) (a : Arena) (c : MatchConfig) :
    let record := (start r a { c with recordFrames := true }).run.result
    record.frames.length = record.frameCount ∧
    (∀ k frame, record.frames[k]? = some frame →
      frame.tick = k + 1 ∧ frame.timestamp = c.timeAt (k + 1) ∧
      (∀ event ∈ frame.damage, event.timestamp = frame.timestamp) ∧
      frame.fighters.map (·.id) = r.entrants.map (·.id)) ∧
    record.frames.flatMap (·.damage) = record.damageLog ∧
    (∃ last, record.frames.getLast? = some last ∧
      last.fighters.map FinalState.of = record.finalStates ∧
      record.duration = last.timestamp) ∧
    (start r a { c with recordFrames := false }).run.result = { record with frames := [] } := by
  intro record
  let first := start r a { c with recordFrames := true }
  obtain ⟨n, positive, same, going, -, kept⟩ := frames_of_run (b := first) rfl rfl rfl
  change record.frames = _ at kept
  have result : record = (steps n first).result := congrArg Battle.result same
  have count : record.frameCount = n := by
    rw [result]
    exact (tick_of_steps going).trans (Nat.zero_add n)
  have log : record.damageLog = (first.footage n).flatMap (·.damage) := by
    rw [result]
    exact damageLog_of_steps going
  refine ⟨?_, ?_, ?_, ?_, ?_⟩
  · rw [kept, count, length_footage]
  · intro k frame there
    rw [kept] at there
    obtain ⟨below, rfl⟩ := footage_eq_some_iff.mp there
    obtain ⟨tick, time, stamped, ids⟩ :=
      snapshot_of_steps fun j earlier => going j (Nat.lt_of_lt_of_le earlier below)
    have unticked : first.tick = 0 := rfl
    rw [unticked, Nat.zero_add] at tick time stamped
    refine ⟨tick, time, ?_, ?_⟩
    · rw [time]
      exact stamped
    · rw [ids]
      exact List.map_map
  · rw [kept, log]
  · obtain ⟨k, rfl⟩ : ∃ k, n = k + 1 := ⟨n - 1, by omega⟩
    refine ⟨(steps (k + 1) first).snapshot, ?_, ?_, ?_⟩
    · rw [kept, footage_succ, List.getLast?_append]
      rfl
    · rw [result]
      rfl
    · rw [result]
      rfl
  · rw [← start_unrecorded r a { c with recordFrames := true }, run_unrecorded]
    rfl

end Battle

end RobotCombat
