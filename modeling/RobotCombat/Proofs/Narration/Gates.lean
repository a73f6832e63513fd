/-
# RobotCombat.Proofs.Narration.Gates — the gates before a call are greedy

Of the hits on walls, and of those that are neither wall nor pit, each `Gate` lets through the
first one above its threshold, then the next one once its window has passed, and so on: this is
`greedy`, a scan of all hits that knows nothing of lines, replies or chance. Banter comes only
where a call has given nothing else, after a lull since the latest time that any line before it
is meant for.

`Gate.atDamage_of_takes` and `Gate.atDamage_of_not_takes` are the step; `Gate.reactAll` takes it
through the hits of one call, and `gate_hearAll` through all calls. `isLatest_hearAll` does the
same for the clock of banter, and `calls_are_greedy` is the result.
-/
import RobotCombat.Proofs.Fighter.Entered
import RobotCombat.Proofs.Narration.Hearing
import RobotCombat.Proofs.Number.Difference

namespace RobotCombat

set_option autoImplicit false

open Number
open Narration (Slot)

/-! ## Greedy selection -/

/-- Whether a hit at a time passes: its damage is above a threshold, and a window has passed
since the last one that was taken, if there was one. -/
def Passes (threshold window : Float32) (last : Option Float32) (hit : Float32 × DamageEvent) :
    Prop :=
  threshold < hit.2.damage ∧ ∀ time ∈ last, window ≤ hit.1 - time

instance (threshold window : Float32) (last : Option Float32) (hit : Float32 × DamageEvent) :
    Decidable (Passes threshold window last hit) :=
  inferInstanceAs (Decidable (_ ∧ _))

/-- The hits that are taken if each one is taken that passes. -/
def greedy (threshold window : Float32) :
    Option Float32 → List (Float32 × DamageEvent) → List (Float32 × DamageEvent)
  | _, [] => []
  | last, hit :: hits =>
    if Passes threshold window last hit then hit :: greedy threshold window (some hit.1) hits
    else greedy threshold window last hits

/-- The two kinds of hits that a narrator calls with a threshold and a window. -/
inductive Gate where
  | bigHit
  | wallSlam
  deriving DecidableEq, Repr

namespace Gate

def occasion : Gate → Occasion
  | bigHit => .bigHit
  | wallSlam => .wallSlam

def hears : Gate → DamageEvent → Bool
  | bigHit, e => e.cause ≠ .wall && e.cause ≠ .pit
  | wallSlam, e => e.cause = .wall

def threshold (s : NarrationSettings) : Gate → Float32
  | bigHit => s.bigHitThreshold
  | wallSlam => s.wallSlamThreshold

def window (s : NarrationSettings) : Gate → Float32
  | bigHit => s.bigHitWindowMs
  | wallSlam => s.wallSlamWindowMs

/-- What is to be said of a hit that is taken. -/
def cue (e : DamageEvent) (values : List (Slot × String)) : Gate → Cue
  | bigHit => .bigHit e.damage values
  | wallSlam => .wallSlam values

/-- The last time that a hit was taken. -/
def last (calls : Calls) : Gate → Option Float32
  | bigHit => calls.bigHit
  | wallSlam => calls.wallSlam

/-- Whether a line calls a hit, and is no reply. -/
def tells (gate : Gate) (o : Occasion) (s : Speaker) : Bool := o = gate.occasion && s = .chuck

end Gate

/-- The hits of some calls that a gate hears of, with their times. -/
def Gate.hits (gate : Gate) (os : List Observation) : List (Float32 × DamageEvent) :=
  os.flatMap fun o => (o.events.filter gate.hears).map (o.moment, ·)

/-- The times are finite, and all damage is a number. -/
structure Observation.Sane (o : Observation) : Prop where
  moment : o.moment.isFinite = true
  damage : ∀ e ∈ o.events, e.damage ≠ .nan

/-- The limits are finite. -/
structure NarrationSettings.Finite (s : NarrationSettings) : Prop where
  bigHitThreshold : s.bigHitThreshold.isFinite = true
  wallSlamThreshold : s.wallSlamThreshold.isFinite = true
  banterEarliestMs : s.banterEarliestMs.isFinite = true
  banterLullMs : s.banterLullMs.isFinite = true

/-! ## One gate -/

namespace Gate

open Narrator (Open)

theorem open_iff_passes {threshold window : Float32} {last : Option Float32} {moment : Float32}
    {e : DamageEvent} (limit : threshold ≠ .nan) (damage : e.damage ≠ .nan) :
    Open threshold window last moment e ↔ Passes threshold window last (moment, e) := by
  have above : ¬ e.damage ≤ threshold ↔ threshold < e.damage :=
    ⟨less_of_not_le damage limit, not_le_of_less⟩
  unfold Open Passes
  rw [above]
  cases last <;> simp [Narrator.windowElapsed]

section Step

variable {gate : Gate} {n : Narrator} {moment : Float32} {calls : Calls} {e : DamageEvent}

/-- Whether a gate takes a hit. -/
def Takes (gate : Gate) (n : Narrator) (moment : Float32) (calls : Calls) (e : DamageEvent) :
    Prop :=
  gate.hears e = true ∧
    Open (gate.threshold n.settings) (gate.window n.settings) (gate.last calls) moment e

theorem atDamage_of_takes (takes : gate.Takes n moment calls e) :
    ((n.atDamage moment calls e).1.filter fun cue => gate.tells cue.occasion cue.speaker) =
        [gate.cue e (n.hitValues e)] ∧
      gate.last (n.atDamage moment calls e).2 = some moment := by
  obtain ⟨heard, opens⟩ := takes
  unfold Narrator.atDamage
  cases gate with
  | bigHit =>
      have called : n.atBigHit moment calls e =
        ([.bigHit e.damage (n.hitValues e)], { calls with bigHit := some moment }) := if_pos opens
      cases cause : e.cause <;> simp_all [hears, Cue.bigHit, tells, occasion, cue, last]
  | wallSlam =>
      have called : n.atWallSlam moment calls e =
        ([.wallSlam (n.hitValues e)], { calls with wallSlam := some moment }) := if_pos opens
      cases cause : e.cause <;> simp_all [hears, Cue.wallSlam, tells, occasion, cue, last]

theorem atDamage_of_not_takes (left : ¬ gate.Takes n moment calls e) :
    ((n.atDamage moment calls e).1.filter fun cue => gate.tells cue.occasion cue.speaker) = [] ∧
      gate.last (n.atDamage moment calls e).2 = gate.last calls := by
  unfold Takes at left
  unfold Narrator.atDamage Narrator.atWallSlam Narrator.atBigHit
  -- another gate may take the hit
  cases gate <;> cases cause : e.cause <;> dsimp only <;> (try split) <;>
    simp_all [hears, threshold, window, last, tells, occasion, Cue.pitFall, Cue.wallSlam,
      Cue.bigHit]

end Step

/-- A state concerns no gate. -/
theorem atState (gate : Gate) (n : Narrator) (calls : Calls) (s : FighterState) :
    gate.last (n.atState calls s).2 = gate.last calls := by
  unfold Narrator.atState
  split
  · cases gate <;> rfl
  · rfl

/-- Of the hits of one call those are taken that the scan takes; the scan goes on from there. -/
theorem reactAll (gate : Gate) (n : Narrator) (limit : gate.threshold n.settings ≠ .nan)
    (moment : Float32) (rest : List (Float32 × DamageEvent)) :
    ∀ (events : List DamageEvent) (calls : Calls), (∀ e ∈ events, e.damage ≠ .nan) →
      ∃ taken : List DamageEvent,
        greedy (gate.threshold n.settings) (gate.window n.settings) (gate.last calls)
            ((events.filter gate.hears).map (moment, ·) ++ rest) =
          taken.map (moment, ·) ++ greedy (gate.threshold n.settings) (gate.window n.settings)
            (gate.last (Narrator.reactAll (n.atDamage moment) calls events).2) rest ∧
        ((Narrator.reactAll (n.atDamage moment) calls events).1.filter
            fun cue => gate.tells cue.occasion cue.speaker) =
          taken.map fun e => gate.cue e (n.hitValues e)
  | [], calls, _ => ⟨[], rfl, rfl⟩
  | e :: events, calls, numbers => by
      rw [List.forall_mem_cons] at numbers
      obtain ⟨taken, scan, cues⟩ := reactAll gate n limit moment rest events
        (n.atDamage moment calls e).2 numbers.2
      unfold Narrator.reactAll
      rw [List.filter_append, cues]
      by_cases takes : gate.Takes n moment calls e
      · obtain ⟨asked, after⟩ := atDamage_of_takes takes
        have passes := (open_iff_passes limit numbers.1).mp takes.2
        rw [List.filter_cons_of_pos takes.1, List.map_cons, List.cons_append, greedy, if_pos passes,
          asked, ← after, scan]
        exact ⟨e :: taken, rfl, rfl⟩
      · obtain ⟨asked, after⟩ := atDamage_of_not_takes takes
        rw [after] at scan
        rw [asked]
        refine ⟨taken, ?_, rfl⟩
        cases heard : gate.hears e with
        | false => rw [List.filter_cons_of_neg (by simp [heard]), scan]
        | true =>
            have fails : ¬ Passes (gate.threshold n.settings) (gate.window n.settings)
                (gate.last calls) (moment, e) :=
              fun passes => takes ⟨heard, (open_iff_passes limit numbers.1).mpr passes⟩
            rw [List.filter_cons_of_pos heard, List.map_cons, List.cons_append, greedy,
              if_neg fails, scan]

theorem tells_certain (gate : Gate) (o : Occasion) (s : Speaker) (told : gate.tells o s = true) :
    o.isReply s = false := by
  have chuck : s = .chuck := by
    unfold tells at told
    simp at told
    exact told.2
  subst chuck
  cases o <;> rfl

theorem tells_banter (gate : Gate) (s : Speaker) : gate.tells .banter s = false := by
  cases gate <;> rfl

theorem tells_lowHp (gate : Gate) (s : Speaker) : gate.tells .lowHp s = false := by
  cases gate <;> rfl

/-- Of the hits of one call those are called that the scan takes. -/
theorem atCall (gate : Gate) {n : Narrator} (going : n.finished = false)
    (limit : gate.threshold n.settings ≠ .nan) {o : Observation} (sane : o.Sane)
    (rest : List (Float32 × DamageEvent)) :
    ∃ taken : List DamageEvent,
      greedy (gate.threshold n.settings) (gate.window n.settings) (gate.last n.calls)
          ((o.events.filter gate.hears).map (o.moment, ·) ++ rest) =
        taken.map (o.moment, ·) ++ greedy (gate.threshold n.settings) (gate.window n.settings)
          (gate.last (n.hear o).calls) rest ∧
      Answered o.moment (taken.map fun e => gate.cue e (n.hitValues e))
        ((n.saidAt o).filter fun l => gate.tells l.occasion l.speaker) := by
  have continues := Narrator.hear_continues going o
  obtain ⟨taken, scan, cues⟩ := gate.reactAll n limit o.moment rest o.events n.calls sane.damage
  refine ⟨taken, ?_, ?_⟩
  · have last : gate.last (n.atCall o).2 =
        gate.last (Narrator.reactAll (n.atDamage o.moment) n.calls o.events).2 :=
      Narrator.reactAll_keeps (gate.last ·) (gate.atState n) o.states _
    rw [scan, continues.calls, last]
  · have answers := continues.filter gate.tells gate.tells_certain gate.tells_banter
    have quiet : ((Narrator.reactAll n.atState (Narrator.reactAll (n.atDamage o.moment) n.calls
        o.events).2 o.states).1.filter fun cue => gate.tells cue.occasion cue.speaker) = [] := by
      rw [List.filter_eq_nil_iff]
      intro cue member
      rw [Narrator.reactAll_cues n.atState_occasion _ _ cue member, tells_lowHp]
      exact Bool.false_ne_true
    unfold Narrator.atCall Narrator.atTick at answers
    rw [List.filter_append, cues, quiet, List.append_nil] at answers
    exact answers

end Gate

/-! ## All calls -/

/-- A time of a list that none of the list is later than. -/
def IsLatest (time : Float32) (times : List Float32) : Prop :=
  time ∈ times ∧ ∀ t ∈ times, t ≤ time

theorem IsLatest.latest {moment : Float32} :
    ∀ {said : List Line} {time : Float32} {times : List Float32},
      (∀ l ∈ said, l.due moment ≠ .nan) → IsLatest time times →
        IsLatest (Narrator.latest moment time said) (times ++ said.map (Line.due moment))
  | [], time, times, _, found => by simpa [Narrator.latest] using found
  | l :: said, time, times, numbers, ⟨among, above⟩ => by
      rw [List.forall_mem_cons] at numbers
      obtain ⟨low, high⟩ := le_larger (ne_nan_of_le_left (above time among)) numbers.1
      have next : IsLatest (larger time (l.due moment)) (times ++ [l.due moment]) := by
        constructor
        · obtain same | same := larger_eq time (l.due moment) <;> rw [same] <;> simp [among]
        · rw [List.forall_mem_append, List.forall_mem_singleton]
          exact ⟨fun t member => le_of_le_of_le (above t member) low, high⟩
      rw [List.map_cons, List.append_cons]
      exact IsLatest.latest numbers.2 next

theorem Line.due_ne_nan {moment : Float32} (finite : moment.isFinite = true) (l : Line) :
    l.due moment ≠ .nan := by
  unfold Line.due Occasion.dueAt
  split <;> first
    | exact ne_nan_of_isFinite finite
    | exact add_ne_nan finite (by decide)

namespace Narrator

variable {n : Narrator} {os : List Observation}

theorem isLatest_hearAll {times : List Float32} (going : n.finished = false)
    (sane : ∀ o ∈ os, o.Sane) (before : IsLatest n.lastLineAt times) :
    IsLatest (n.hearAll os).lastLineAt (times ++ (n.timed os).map (·.1)) := by
  induction os generalizing n times with
  | nil =>
      rw [timed, List.map_nil, List.append_nil]
      exact before
  | cons o os ih =>
      have continues := hear_continues going o
      rw [List.forall_mem_cons] at sane
      have next := before.latest fun l (_ : l ∈ n.saidAt o) => l.due_ne_nan sane.1.moment
      rw [← continues.last] at next
      have rest := ih (continues.finished.trans going) sane.2 next
      rw [timed_times, ← List.append_assoc]
      exact rest

theorem gate_hearAll (gate : Gate) (going : n.finished = false)
    (limit : gate.threshold n.settings ≠ .nan) (sane : ∀ o ∈ os, o.Sane) :
    List.Forall₂ (fun hit l => Line.Answers l hit.1 (gate.cue hit.2 (n.hitValues hit.2)))
      (greedy (gate.threshold n.settings) (gate.window n.settings) (gate.last n.calls)
        (gate.hits os))
      (((n.timed os).map (·.2)).filter fun l => gate.tells l.occasion l.speaker) := by
  induction os generalizing n with
  | nil => exact .nil
  | cons o os ih =>
      have continues := hear_continues going o
      rw [List.forall_mem_cons] at sane
      have rest := ih (continues.finished.trans going) (continues.settings ▸ limit) sane.2
      obtain ⟨taken, scan, answers⟩ := gate.atCall going limit sane.1 (gate.hits os)
      rw [continues.settings, hitValues_congr continues.names] at rest
      unfold Gate.hits at scan ⊢
      rw [List.flatMap_cons, scan, timed_lines, List.filter_append]
      refine List.rel_append ?_ rest
      rw [List.forall₂_map_left_iff]
      exact List.forall₂_map_left_iff.mp answers

/-- A line of banter comes alone, late enough and after a lull. -/
theorem banter_of_call (going : n.finished = false) (limits : n.settings.Finite)
    {o : Observation} (sane : o.Sane) {times : List Float32} (before : IsLatest n.lastLineAt times)
    {l : Line} (member : l ∈ n.saidAt o) (banter : l.occasion = .banter) :
    n.saidAt o = [l] ∧ n.settings.banterEarliestMs ≤ o.moment ∧
      n.settings.banterLullMs ≤ o.moment - n.lastLineAt := by
  obtain ⟨silent, -⟩ | ⟨due, -, l', alone, -⟩ :=
    (hear_continues going o).banter_cases (n.atCall_grave o)
  · exact absurd banter (silent l member)
  · obtain ⟨-, late, quiet, -⟩ := banterDue_iff.mp due
    rw [alone, List.mem_singleton] at member
    have number : n.lastLineAt ≠ .nan := ne_nan_of_le_left (before.2 _ before.1)
    exact ⟨member ▸ alone,
      le_of_not_less (ne_nan_of_isFinite sane.moment) (ne_nan_of_isFinite limits.banterEarliestMs)
        late,
      le_of_not_less (sub_ne_nan sane.moment number) (ne_nan_of_isFinite limits.banterLullMs) quiet⟩

/-! ## From the opening on -/

namespace Opened

variable {first : Narrator} {settings : NarrationSettings}

theorem clock (opened : Opened settings first) :
    IsLatest first.lastLineAt (first.lines.toList.map (Line.due 0)) := by
  rw [opened.times, opened.last]
  refine ⟨by simp, ?_⟩
  rw [List.forall_mem_cons, List.forall_mem_singleton]
  decide

theorem hits (opened : Opened settings first) (limits : settings.Finite) {os : List Observation}
    (sane : ∀ o ∈ os, o.Sane) (gate : Gate) :
    List.Forall₂ (fun hit l => Line.Answers l hit.1 (gate.cue hit.2 (first.hitValues hit.2)))
      (greedy (gate.threshold settings) (gate.window settings) none (gate.hits os))
      ((first.hearAll os).lines.toList.filter fun l => gate.tells l.occasion l.speaker) := by
  obtain rfl := opened.settings
  have limit : gate.threshold first.settings ≠ .nan := by
    cases gate with
    | bigHit => exact ne_nan_of_isFinite limits.bigHitThreshold
    | wallSlam => exact ne_nan_of_isFinite limits.wallSlamThreshold
  have fresh : gate.last first.calls = none := by
    rw [opened.calls]
    cases gate <;> rfl
  have silent : ∀ l : Line, l.occasion = .start → gate.tells l.occasion l.speaker = false := by
    intro l start
    rw [start]
    cases gate <;> rfl
  have answers := gate_hearAll gate opened.going limit sane
  rw [fresh] at answers
  rw [opened.filter_lines os silent]
  exact answers

theorem banter (opened : Opened settings first) (limits : settings.Finite)
    {before : List Observation} {o : Observation} (sane : ∀ o ∈ before, o.Sane) (now : o.Sane)
    {l : Line} (member : l ∈ (first.hearAll before).saidAt o) (banter : l.occasion = .banter) :
    (first.hearAll before).saidAt o = [l] ∧ settings.banterEarliestMs ≤ o.moment ∧
      ∃ latest, IsLatest latest ((first.timeline before).map (·.1)) ∧
        settings.banterLullMs ≤ o.moment - latest := by
  have clock := isLatest_hearAll opened.going sane opened.clock
  obtain ⟨going, -, same, -⟩ := hearAll_keeps before opened.going
  rw [opened.settings] at same
  subst same
  obtain ⟨alone, late, lull⟩ := banter_of_call going limits now clock member banter
  refine ⟨alone, late, _, ?_, lull⟩
  rw [Narrator.timeline, List.map_append, List.map_map]
  exact clock

end Opened

/-- Whatever a narrator is shown between the opening and the end, the calls of hits are those of
a greedy scan, and every line of banter stands alone in its call, late enough and after a lull;
they are counted, and there are no more of them than allowed. -/
theorem calls_are_greedy {settings : NarrationSettings} (limits : settings.Finite) (seed : UInt64)
    (r : Roster) {os : List Observation} (sane : ∀ o ∈ os, o.Sane) :
    let first := (ofSeed settings seed).start r
    let told := first.hearAll os
    (∀ gate : Gate, List.Forall₂
        (fun hit l => Line.Answers l hit.1 (gate.cue hit.2 (first.hitValues hit.2)))
        (greedy (gate.threshold settings) (gate.window settings) none (gate.hits os))
        (told.lines.toList.filter fun l => gate.tells l.occasion l.speaker)) ∧
      (told.lines.toList = (first.timeline os).map (·.2) ∧
        ∀ x ∈ first.timeline os, x.2.timestamp = wholeMs x.1) ∧
      (∀ l ∈ first.lines.toList, l.occasion = .start) ∧
      (∀ before o after, os = before ++ o :: after →
        ∀ l ∈ (first.hearAll before).saidAt o, l.occasion = .banter →
          (first.hearAll before).saidAt o = [l] ∧ settings.banterEarliestMs ≤ o.moment ∧
            ∃ latest, IsLatest latest ((first.timeline before).map (·.1)) ∧
              settings.banterLullMs ≤ o.moment - latest) ∧
      told.banterCount = (told.lines.toList.filter fun l => l.occasion = .banter).length ∧
      told.banterCount ≤ settings.banterCap := by
  have opened := start_opened settings seed r
  refine ⟨opened.hits limits sane, opened.timeline os, opened.occasion, ?_, opened.count os⟩
  rintro before o after rfl l member banter
  rw [List.forall_mem_append, List.forall_mem_cons] at sane
  exact opened.banter limits sane.1 sane.2.1 member banter

/-- Three hits and a slam. -/
def volley : List Observation :=
  let hit (damage : Float32) (cause : Cause) : DamageEvent := ⟨none, "smith", damage, cause, 0⟩
  [⟨100, [hit 20 .spikes, hit 9 .wall], []⟩, ⟨1000, [hit 30 .collision], []⟩,
    ⟨2600, [hit 13 .spikes], []⟩]

/-- The heaviest hit comes too early after the first one to be called. -/
theorem volley_calls :
    NarrationSettings.broadcast.Finite ∧ (∀ o ∈ volley, o.Sane) ∧
      let told := ((ofSeed .broadcast 7).start Roster.duel).hearAll volley
      let calls := fun gate : Gate =>
        (told.lines.toList.filter fun l => gate.tells l.occasion l.speaker).length
      calls .bigHit = 2 ∧ calls .wallSlam = 1 := by
  have limits : NarrationSettings.broadcast.Finite := ⟨by decide, by decide, by decide, by decide⟩
  have numbers : ∀ o ∈ volley, o.moment.isFinite = true ∧ ∀ e ∈ o.events, e.damage ≠ .nan := by
    decide
  have sane : ∀ o ∈ volley, o.Sane := fun o member => ⟨(numbers o member).1, (numbers o member).2⟩
  obtain ⟨taken, -⟩ := calls_are_greedy limits 7 Roster.duel sane
  have two : (greedy 12 2500 none (Gate.bigHit.hits volley)).length = 2 := by decide
  have one : (greedy 8 3000 none (Gate.wallSlam.hits volley)).length = 1 := by decide
  exact ⟨limits, sane, (taken .bigHit).length_eq.symm.trans two,
    (taken .wallSlam).length_eq.symm.trans one⟩

end Narrator

end RobotCombat
