/-
# RobotCombat.Proofs.Narration.Hearing — a narrator over many calls

Between the opening and the end a narrator is shown one `Observation` after another. Each call
is a step of `hear`, of which `hear_continues` says all there is to say; `hearAll` is a run.
`timeline` are the lines of a run in the order in which they were said, each with the time for
which it is meant, and `Opened` is where every run begins.
-/
import RobotCombat.Proofs.Narration.Reactions

namespace RobotCombat

set_option autoImplicit false

open Number

/-- What a narrator is shown in one call. -/
structure Observation where
  moment : Float32
  events : List DamageEvent
  states : List FighterState

namespace Narrator

def hear (n : Narrator) (o : Observation) : Narrator := n.observe o.moment o.events o.states

def hearAll (n : Narrator) (os : List Observation) : Narrator := os.foldl hear n

/-- The lines of one call. -/
def saidAt (n : Narrator) (o : Observation) : List Line :=
  (n.hear o).lines.toList.drop n.lines.size

/-- The lines of some calls, each with the time for which it is meant. -/
def timed : Narrator → List Observation → List (Float32 × Line)
  | _, [] => []
  | n, o :: os => (n.saidAt o).map (fun l => (l.due o.moment, l)) ++ timed (n.hear o) os

/-- The lines of an opening and of some calls, each with the time for which it is meant. -/
def timeline (n : Narrator) (os : List Observation) : List (Float32 × Line) :=
  n.lines.toList.map (fun l => (l.due 0, l)) ++ n.timed os

/-- The reaction to one call. -/
def atCall (n : Narrator) (o : Observation) : List Cue × Calls :=
  n.atTick o.moment n.calls o.events o.states

theorem hear_continues {n : Narrator} (going : n.finished = false) (o : Observation) :
    Continues n o.moment (n.atCall o) (n.saidAt o) (n.hear o) := by
  obtain ⟨said, continues⟩ := observe_continues going o.moment o.events o.states
  have new : n.saidAt o = said := by
    unfold saidAt hear
    rw [continues.lines, ← Array.length_toList, List.drop_left]
  rw [new]
  exact continues

theorem banterDue_iff {n : Narrator} {moment : Float32} :
    n.banterDue moment = true ↔ n.banterCount < n.settings.banterCap ∧
      ¬ moment < n.settings.banterEarliestMs ∧
      ¬ moment - n.lastLineAt < n.settings.banterLullMs ∧
      windowElapsed n.lastBanterRoll moment n.settings.banterRollIntervalMs = true := by
  unfold banterDue
  simp [and_assoc]

theorem atCall_grave (n : Narrator) (o : Observation) :
    ∀ cue ∈ (n.atCall o).1, cue.occasion ≠ .banter := by
  intro cue member banter
  have listed := n.atTick_occasion o.moment n.calls o.events o.states cue member
  rw [banter] at listed
  revert listed
  decide

/-- A call counts the banter that it gives, and keeps to the cap. -/
theorem hear_counts {n : Narrator} (going : n.finished = false) (o : Observation)
    (below : n.banterCount ≤ n.settings.banterCap) :
    (n.hear o).banterCount = n.banterCount +
        ((n.saidAt o).filter fun l => l.occasion = .banter).length ∧
      (n.hear o).banterCount ≤ n.settings.banterCap := by
  obtain ⟨silent, same⟩ | ⟨due, more, l, alone, banter⟩ :=
    (hear_continues going o).banter_cases (n.atCall_grave o)
  · have none : ((n.saidAt o).filter fun l => l.occasion = .banter) = [] := by simpa using silent
    rw [same, none]
    exact ⟨rfl, below⟩
  · rw [more, alone, List.filter_cons_of_pos (by simpa using banter)]
    exact ⟨rfl, (banterDue_iff.mp due).1⟩

/-! ## Runs -/

section Runs

variable {n : Narrator} {os : List Observation}

theorem timed_lines (n : Narrator) (o : Observation) (os : List Observation) :
    (n.timed (o :: os)).map (·.2) = n.saidAt o ++ ((n.hear o).timed os).map (·.2) := by
  rw [timed, List.map_append, List.map_map]
  exact congrArg (· ++ _) (List.map_id _)

theorem timed_times (n : Narrator) (o : Observation) (os : List Observation) :
    (n.timed (o :: os)).map (·.1) =
      (n.saidAt o).map (Line.due o.moment) ++ ((n.hear o).timed os).map (·.1) := by
  rw [timed, List.map_append, List.map_map]
  rfl

/-- What a narrator keeps until the end. -/
theorem hearAll_keeps (os : List Observation) (going : n.finished = false) :
    (n.hearAll os).finished = false ∧ (n.hearAll os).started = n.started ∧
      (n.hearAll os).settings = n.settings ∧ (n.hearAll os).names = n.names := by
  induction os generalizing n with
  | nil => exact ⟨going, rfl, rfl, rfl⟩
  | cons o os ih =>
      have continues := hear_continues going o
      rw [← continues.started, ← continues.settings, ← continues.names]
      exact ih (continues.finished.trans going)

theorem hearAll_lines (going : n.finished = false) :
    (n.hearAll os).lines.toList = n.lines.toList ++ (n.timed os).map (·.2) := by
  induction os generalizing n with
  | nil => exact (List.append_nil _).symm
  | cons o os ih =>
      have continues := hear_continues going o
      have rest := ih (continues.finished.trans going)
      rw [continues.lines, List.append_assoc] at rest
      rw [timed_lines]
      exact rest

theorem timed_stamps (going : n.finished = false) :
    ∀ x ∈ n.timed os, x.2.timestamp = wholeMs x.1 := by
  induction os generalizing n with
  | nil => nofun
  | cons o os ih =>
      have continues := hear_continues going o
      rw [timed, List.forall_mem_append, List.forall_mem_map]
      exact ⟨continues.stamped, ih (continues.finished.trans going)⟩

/-- The count of banter is the number of its lines, and stays within its cap. -/
theorem banterCount_hearAll (os : List Observation) (going : n.finished = false)
    (below : n.banterCount ≤ n.settings.banterCap) :
    (n.hearAll os).banterCount = n.banterCount +
        (((n.timed os).map (·.2)).filter fun l => l.occasion = .banter).length ∧
      (n.hearAll os).banterCount ≤ n.settings.banterCap := by
  induction os generalizing n with
  | nil => exact ⟨rfl, below⟩
  | cons o os ih =>
      have continues := hear_continues going o
      have step := hear_counts going o below
      rw [← continues.settings] at step
      obtain ⟨counted, capped⟩ := ih (continues.finished.trans going) step.2
      rw [timed_lines, List.filter_append, List.length_append, ← Nat.add_assoc, ← step.1,
        ← continues.settings]
      exact ⟨counted, capped⟩

end Runs

/-! ## The opening -/

/-- A narrator that has opened a match and has said nothing else. -/
structure Opened (settings : NarrationSettings) (n : Narrator) : Prop where
  started : n.started = true
  going : n.finished = false
  settings : n.settings = settings
  calls : n.calls = ⟨none, none, []⟩
  uncounted : n.banterCount = 0
  occasion : ∀ l ∈ n.lines.toList, l.occasion = .start
  stamped : ∀ l ∈ n.lines.toList, l.timestamp = wholeMs (l.due 0)
  times : n.lines.toList.map (Line.due 0) = [0, 800]
  last : n.lastLineAt = 800

theorem start_opened (settings : NarrationSettings) (seed : UInt64) (r : Roster) :
    Opened settings ((ofSeed settings seed).start r) := by
  obtain ⟨stream, said, answers, opened⟩ := start_eq (n := ofSeed settings seed) rfl r
  rw [opened]
  have lines : (((ofSeed settings seed).introduced r).utter 0 stream said).lines.toList = said :=
    toList_utter _ _ _ _
  -- the opening has two lines, and the reply to it is the later one
  obtain - | @⟨_, l, _, _, first, - | @⟨_, l', _, _, second, - | _⟩⟩ := answers
  have time : l.due 0 = 0 := by
    rw [Line.due, first.occasion, first.speaker]
    rfl
  have time' : l'.due 0 = 800 := by
    rw [Line.due, second.occasion, second.speaker]
    rfl
  have later : larger (larger 0 0) 800 = 800 := by decide
  refine ⟨rfl, rfl, rfl, rfl, rfl, ?_, ?_, ?_, ?_⟩
  · rw [lines, List.forall_mem_cons, List.forall_mem_singleton]
    exact ⟨first.occasion, second.occasion⟩
  · rw [lines, List.forall_mem_cons, List.forall_mem_singleton]
    exact ⟨first.timestamp, second.timestamp⟩
  · rw [lines, List.map_cons, List.map_cons, List.map_nil, time, time']
  · show larger (larger 0 (l.due 0)) (l'.due 0) = 800
    rw [time, time', later]

namespace Opened

variable {first : Narrator} {settings : NarrationSettings}

theorem timeline (opened : Opened settings first) (os : List Observation) :
    (first.hearAll os).lines.toList = (first.timeline os).map (·.2) ∧
      ∀ x ∈ first.timeline os, x.2.timestamp = wholeMs x.1 := by
  constructor
  · rw [hearAll_lines opened.going, Narrator.timeline, List.map_append, List.map_map]
    exact congrArg (· ++ _) (List.map_id _).symm
  · rw [Narrator.timeline, List.forall_mem_append, List.forall_mem_map]
    exact ⟨opened.stamped, timed_stamps opened.going⟩

/-- The opening gives no other lines than its own. -/
theorem filter_lines (opened : Opened settings first) (os : List Observation) {p : Line → Bool}
    (silent : ∀ l, l.occasion = .start → p l = false) :
    (first.hearAll os).lines.toList.filter p = ((first.timed os).map (·.2)).filter p := by
  have none : first.lines.toList.filter p = [] := by
    rw [List.filter_eq_nil_iff]
    intro l member
    rw [silent l (opened.occasion l member)]
    exact Bool.false_ne_true
  rw [hearAll_lines opened.going, List.filter_append, none, List.nil_append]

theorem count (opened : Opened settings first) (os : List Observation) :
    (first.hearAll os).banterCount =
        ((first.hearAll os).lines.toList.filter fun l => l.occasion = .banter).length ∧
      (first.hearAll os).banterCount ≤ settings.banterCap := by
  have below : first.banterCount ≤ first.settings.banterCap := by
    rw [opened.uncounted]
    exact Nat.zero_le _
  have counts := banterCount_hearAll os opened.going below
  rw [opened.uncounted, Nat.zero_add, opened.settings] at counts
  rw [opened.filter_lines os fun l start => by rw [start]; rfl]
  exact counts

end Opened

end Narrator

end RobotCombat
