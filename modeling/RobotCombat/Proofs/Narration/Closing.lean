/-
# RobotCombat.Proofs.Narration.Closing — what can outlast the closing lines

The end of a match adds its lines and calls nothing back: a reply that was said shortly before
keeps the time for which it was meant. `Occasion.delay` is how long a line waits, and no line
waits longer than the reply on a fighter in trouble. Times in whole milliseconds follow the
order of numbers (`wholeMs_mono`), so whatever is meant for later than some time was said less
than its own delay before it.

* `transcript_last`: a transcript ends with a line said last, unless one from before is later;
* `Opened.outlasts_of_late`: where a line comes from that is meant for later than some time;
* `finish_last`, `finish_closes_unless_outlasted`: the transcript of a match ends with a closing
  line, or else with a line that outlasts all of them;
* `trouble_outlasts_finish`: a match whose last line is no closing line.
-/
import RobotCombat.Proofs.Fighter.Entered
import RobotCombat.Proofs.Narration.Tally
import RobotCombat.Proofs.Number.Whole

namespace RobotCombat

set_option autoImplicit false

open Number

/-! ## Delays -/

/-- How long a line waits for the time for which it is meant. -/
def Occasion.delay : Occasion → Speaker → Float32
  | .start, .frank => 800
  | .bigHit, .frank => 600
  | .wallSlam, .frank => 500
  | .pitFall, .frank => 600
  | .lowHp, .chuck => 200
  | .lowHp, .frank => 900
  | .finish, .frank => 800
  | _, _ => 0

def Line.delay (l : Line) : Float32 := l.occasion.delay l.speaker

theorem Occasion.dueAt_eq (moment : Float32) (o : Occasion) (s : Speaker) :
    o.dueAt moment s = moment + o.delay s ∨ o.dueAt moment s = moment ∧ o.delay s = 0 := by
  cases o <;> cases s <;> first | exact .inl rfl | exact .inr ⟨rfl, rfl⟩

theorem Occasion.delay_finite (o : Occasion) (s : Speaker) : (o.delay s).isFinite = true := by
  cases o <;> cases s <;> rfl

/-- Only the reply on a fighter in trouble waits longer than the closing reply. -/
theorem Occasion.delay_le (o : Occasion) (s : Speaker) :
    o.delay s ≤ 800 ∨ o = .lowHp ∧ s = .frank := by
  cases o <;> cases s <;> first | exact .inl (by decide) | exact .inr ⟨rfl, rfl⟩

theorem Line.Answers.timestamp_eq {l : Line} {moment : Float32} {cue : Cue}
    (answer : l.Answers moment cue) :
    l.timestamp = Narrator.wholeMs (cue.occasion.dueAt moment cue.speaker) := by
  rw [answer.timestamp, Line.due, answer.occasion, answer.speaker]

namespace Narrator

/-! ## Whole milliseconds -/

/-- Times in whole milliseconds follow the order of numbers. -/
theorem wholeMs_mono {x y : Float32} (h : x ≤ y) : wholeMs x ≤ wholeMs y :=
  toNatUpTo_roundAway_mono (by decide) h

theorem not_le_of_late {x y : Float32} (late : wholeMs y < wholeMs x) : ¬ x ≤ y :=
  fun early => late.not_ge (wholeMs_mono early)

theorem wholeMs_le_add (x : Float32) {d : Float32} (nonneg : 0 ≤ d) (finite : d.isFinite = true) :
    wholeMs x ≤ wholeMs (x + d) := by
  by_cases number : x = .nan
  · have missing : wholeMs .nan = 0 := by decide
    rw [number, missing]
    exact Nat.zero_le _
  · exact wholeMs_mono (le_add_of_nonneg number nonneg finite)

/-! ## The last line of a transcript -/

/-- The transcript ends with one of the lines that were said last, unless a line from before is
meant for later than all of them. -/
theorem transcript_last {n : Narrator} {before said : List Line} {top : Nat}
    (lines : n.lines.toList = before ++ said) (low : ∀ l ∈ said, l.timestamp ≤ top)
    (reached : ∃ l ∈ said, l.timestamp = top) :
    ∃ last, n.transcript.getLast? = some last ∧
      ((∀ l ∈ before, l.timestamp ≤ top) ∧ last ∈ said ∨
        last ∈ before ∧ top < last.timestamp) := by
  obtain ⟨perm, sorted, stable⟩ := n.transcript_stable
  obtain ⟨peak, peaks, atTop⟩ := reached
  have occurs : peak ∈ n.transcript :=
    perm.mem_iff.mpr (lines ▸ List.mem_append_right before peaks)
  obtain ⟨front, last, ends⟩ :=
    (List.eq_nil_or_concat' n.transcript).resolve_left (List.ne_nil_of_mem occurs)
  have highest : ∀ l ∈ n.transcript, l.timestamp ≤ last.timestamp := by
    rw [ends, List.pairwise_append] at sorted
    rw [ends, List.forall_mem_append, List.forall_mem_singleton]
    exact ⟨fun l member => sorted.2.2 l member last List.mem_cons_self, le_rfl⟩
  have listed : last ∈ before ∨ last ∈ said := by
    rw [← List.mem_append, ← lines, ← perm.mem_iff, ends]
    exact List.mem_append_right front List.mem_cons_self
  refine ⟨last, by rw [ends, List.getLast?_concat], ?_⟩
  by_cases higher : top < last.timestamp
  · exact .inr ⟨listed.resolve_right fun member => (low last member).not_gt higher, higher⟩
  · have same : last.timestamp = top :=
      le_antisymm (not_lt.mp higher) (atTop ▸ highest peak occurs)
    -- of the lines of the latest time the last one is among those said last
    have row := stable top
    have kept : [last].filter (fun l => l.timestamp = top) = [last] :=
      List.filter_cons_of_pos (decide_eq_true same)
    rw [ends, lines, List.filter_append, List.filter_append, kept] at row
    have some : peak ∈ said.filter fun l => l.timestamp = top :=
      List.mem_filter.mpr ⟨peaks, decide_eq_true atTop⟩
    have final := congrArg List.getLast? row
    rw [List.getLast?_concat, List.getLast?_append_of_ne_nil _ (List.ne_nil_of_mem some)] at final
    refine .inl ⟨fun l member => ?_, (List.mem_filter.mp (List.mem_of_getLast? final.symm)).1⟩
    rw [← same]
    exact highest l (perm.mem_iff.mpr (lines ▸ List.mem_append_left said member))

/-! ## Lines that come late -/

theorem mem_lines_hearAll {n : Narrator} {os : List Observation} {l : Line}
    (going : n.finished = false) (member : l ∈ (n.hearAll os).lines.toList) :
    l ∈ n.lines.toList ∨
      ∃ before o after, os = before ++ o :: after ∧ l ∈ (n.hearAll before).saidAt o := by
  induction os generalizing n with
  | nil => exact .inl member
  | cons o os ih =>
      have continues := hear_continues going o
      rcases ih (continues.finished.trans going) member with first | ⟨before, o', after, rfl, later⟩
      · rw [continues.lines, List.mem_append] at first
        exact first.imp_right fun now => ⟨[], o, os, rfl, now⟩
      · exact .inr ⟨o :: before, o', after, rfl, later⟩

/-- A line of a run that is meant for later than `time`: it waits longer than `lag` and was said
less than its delay before that time, or it is the reply of the opening. -/
def Outlasts (first : Narrator) (os : List Observation) (lag time : Float32) (l : Line) : Prop :=
  (l ∈ first.lines.toList ∧ l.speaker = .frank ∧ ¬ 800 ≤ time) ∨
    ∃ before o after, os = before ++ o :: after ∧ l ∈ (first.hearAll before).saidAt o ∧
      lag < l.delay ∧ time < o.moment + l.delay

theorem due_le (l : Line) {moment : Float32} (number : moment ≠ .nan) :
    l.due moment ≤ moment + l.delay := by
  rcases l.occasion.dueAt_eq moment l.speaker with later | ⟨now, none⟩
  · rw [Line.due, later]
    exact self_le (add_commutes _ _ ▸ add_ne_nan (l.occasion.delay_finite l.speaker) number)
  · rw [Line.due, now, Line.delay, none]
    exact le_add_of_nonneg number (self_le zero_ne_nan) rfl

/-- A line that is meant for later than `time` waits long enough for that. -/
theorem waits_of_late (l : Line) {moment lag time : Float32} (number : moment ≠ .nan)
    (finite : lag.isFinite = true) (reach : moment + lag ≤ time)
    (late : wholeMs time < wholeMs (l.due moment)) :
    lag < l.delay ∧ time < moment + l.delay := by
  have bounded := l.occasion.delay_finite l.speaker
  have beyond := not_le_of_late late
  constructor
  · apply less_of_not_le (ne_nan_of_isFinite bounded) (ne_nan_of_isFinite finite)
    intro short
    have sooner : moment + l.delay ≤ moment + lag := add_mono_right number bounded short finite
    exact beyond (le_of_le_of_le (due_le l number) (le_of_le_of_le sooner reach))
  · apply less_of_not_le (add_commutes _ _ ▸ add_ne_nan bounded number) (ne_nan_of_le_right reach)
    intro sooner
    exact beyond (le_of_le_of_le (due_le l number) sooner)

/-- Where every call is earlier than `time` by `lag`, a line that is meant for later than `time`
outlasts it. -/
theorem Opened.outlasts_of_late {first : Narrator} {settings : NarrationSettings}
    (opened : Opened settings first) {os : List Observation} {lag time : Float32}
    (finite : lag.isFinite = true)
    (reach : ∀ o ∈ os, o.moment ≠ .nan ∧ o.moment + lag ≤ time) {l : Line}
    (member : l ∈ (first.hearAll os).lines.toList) (late : wholeMs time < l.timestamp) :
    first.Outlasts os lag time l := by
  rcases mem_lines_hearAll opened.going member with opening | ⟨before, o, after, split, said⟩
  · left
    have due : l.due 0 ∈ [0, 800] := opened.times ▸ List.mem_map_of_mem opening
    rw [opened.stamped l opening] at late
    rw [List.mem_pair] at due
    rcases due with now | later
    · rw [now] at late
      exact absurd late (Nat.not_lt_zero _)
    · refine ⟨opening, ?_, later ▸ not_le_of_late late⟩
      rw [Line.due, opened.occasion l opening] at later
      cases speaker : l.speaker with
      | frank => rfl
      | chuck | both =>
          rw [speaker] at later
          exact absurd later (by decide)
  · right
    obtain ⟨number, near⟩ := reach o (split ▸ List.mem_append_right before List.mem_cons_self)
    have continues := hear_continues (hearAll_keeps before opened.going).1 o
    rw [continues.stamped l said] at late
    exact ⟨before, o, after, split, said, waits_of_late l number finite near late⟩

/-! ## The end -/

/-- How long the last closing line waits: there is a reply to a victory, and none to a draw. -/
def closingLag : Option FighterState → Float32
  | some _ => 800
  | none => 0

/-- The time for which the last closing line is meant. -/
def closingTime (moment : Float32) : Option FighterState → Float32
  | some _ => moment + 800
  | none => moment

/-- The closing lines are meant for the closing time at the latest, and one of them is. -/
theorem closing_times {n : Narrator} {moment : Float32} {winner : Option FighterState}
    {timedOut : Bool} {said : List Line}
    (answers : Answered moment (n.finishCues winner timedOut) said) :
    (∀ l ∈ said, l.occasion = .finish ∧ l.timestamp ≤ wholeMs (closingTime moment winner)) ∧
      ∃ l ∈ said, l.timestamp = wholeMs (closingTime moment winner) := by
  cases winner with
  | none =>
      obtain - | @⟨_, l, _, _, answer, - | _⟩ := answers
      have now : l.timestamp = wholeMs moment := answer.timestamp_eq
      rw [List.forall_mem_singleton]
      exact ⟨⟨answer.occasion, now.le⟩, l, List.mem_cons_self, now⟩
  | some w =>
      obtain - | @⟨_, l, _, _, call, - | @⟨_, l', _, _, reply, - | _⟩⟩ := answers
      have now : l.timestamp = wholeMs moment := call.timestamp_eq
      have later : l'.timestamp = wholeMs (moment + 800) := reply.timestamp_eq
      have before : l.timestamp ≤ wholeMs (moment + 800) :=
        now ▸ wholeMs_le_add moment (by decide) rfl
      rw [List.forall_mem_cons, List.forall_mem_singleton]
      exact ⟨⟨⟨call.occasion, before⟩, reply.occasion, later.le⟩, l',
        List.mem_cons_of_mem l List.mem_cons_self, later⟩

/-- The closing lines are said last. The transcript ends with one of them, unless a line from
before is meant for later than the closing time. -/
theorem finish_last {n : Narrator} (going : n.finished = false) (moment : Float32)
    (winner : Option FighterState) (timedOut : Bool) :
    ∃ said, (n.finish moment winner timedOut).lines.toList = n.lines.toList ++ said ∧
      Answered moment (n.finishCues winner timedOut) said ∧
      ∃ last, (n.finish moment winner timedOut).transcript.getLast? = some last ∧
        ((∀ l ∈ n.lines.toList, l.timestamp ≤ wholeMs (closingTime moment winner)) ∧
            last.occasion = .finish ∨
          last ∈ n.lines.toList ∧ wholeMs (closingTime moment winner) < last.timestamp) := by
  obtain ⟨stream, said, answers, eq⟩ := finish_eq going moment winner timedOut
  have lines : (n.finish moment winner timedOut).lines.toList = n.lines.toList ++ said := by
    rw [eq, toList_utter]
  obtain ⟨closing, reached⟩ := closing_times answers
  obtain ⟨last, ends, outcome⟩ :=
    transcript_last lines (fun l member => (closing l member).2) reached
  exact ⟨said, lines, answers, last, ends,
    outcome.imp_left fun ⟨low, final⟩ => ⟨low, (closing last final).1⟩⟩

/-- Calls up to the end stay below the closing time by the closing lag. -/
theorem reach_closing {moment now : Float32} (order : now ≤ moment)
    (winner : Option FighterState) :
    now ≠ .nan ∧ now + closingLag winner ≤ closingTime moment winner := by
  refine ⟨ne_nan_of_le_left order, ?_⟩
  cases winner with
  | none => exact ((add_zero_level now).le_iff (.refl moment)).mpr order
  | some w =>
      have finite : (800 : Float32).isFinite = true := rfl
      exact add_mono_left order finite

theorem closingLag_finite (winner : Option FighterState) : (closingLag winner).isFinite = true := by
  cases winner with
  | none => rfl
  | some w =>
      show (800 : Float32).isFinite = true
      rfl

/-- Once the opening is over, only the reply on a fighter in trouble outlasts the reply to a
victory. -/
theorem Outlasts.trouble {first : Narrator} {os : List Observation} {time : Float32} {l : Line}
    (outlasts : first.Outlasts os 800 time l) (opening : 800 ≤ time) :
    l.occasion = .lowHp ∧ l.speaker = .frank := by
  obtain ⟨-, -, early⟩ | ⟨-, -, -, -, -, long, -⟩ := outlasts
  · exact absurd opening early
  · exact (l.occasion.delay_le l.speaker).resolve_left (not_le_of_less long)

/-- At the end of a match the closing lines are said last, and the transcript ends with one of
them exactly if no line from before is meant for later than all of them. A line that is meant for
later than the end was said less than its delay before it, and past the opening only the reply on
a fighter in trouble is later than the lines of a victory. -/
theorem finish_closes_unless_outlasted (settings : NarrationSettings) (seed : UInt64) (r : Roster)
    {os : List Observation} {moment : Float32} (order : ∀ o ∈ os, o.moment ≤ moment)
    (winner : Option FighterState) (timedOut : Bool) :
    let first := (ofSeed settings seed).start r
    let n := first.hearAll os
    let ended := n.finish moment winner timedOut
    (∃ said, ended.lines.toList = n.lines.toList ++ said ∧
        Answered moment (n.finishCues winner timedOut) said) ∧
      (∀ l ∈ n.lines.toList, l.occasion ≠ .finish ∧
        (wholeMs moment < l.timestamp → first.Outlasts os 0 moment l)) ∧
      ∃ last, ended.transcript.getLast? = some last ∧
        (last.occasion = .finish ↔
          ∀ l ∈ n.lines.toList, l.timestamp ≤ wholeMs (closingTime moment winner)) ∧
        (last.occasion = .finish ∨ last ∈ n.lines.toList ∧
          first.Outlasts os (closingLag winner) (closingTime moment winner) last) ∧
        (winner.isSome = true → 0 ≤ moment →
          last.occasion = .finish ∨ last.occasion = .lowHp ∧ last.speaker = .frank) := by
  intro first n ended
  have opened : Opened settings first := start_opened settings seed r
  have going : n.finished = false := (hearAll_keeps os opened.going).1
  have grave : ∀ l ∈ n.lines.toList, l.occasion ≠ .finish := by
    have none := (opened.tally.hearAll opened.going os).closing
    intro l member finish
    exact List.filter_eq_nil_iff.mp none l member (decide_eq_true finish)
  obtain ⟨said, lines, answers, last, ends, outcome⟩ := finish_last going moment winner timedOut
  refine ⟨⟨said, lines, answers⟩, fun l member => ⟨grave l member, fun late => ?_⟩, last, ends, ?_⟩
  · exact opened.outlasts_of_late rfl (fun o call => reach_closing (order o call) none) member late
  · rcases outcome with ⟨low, finish⟩ | ⟨member, late⟩
    · exact ⟨iff_of_true finish low, .inl finish, fun _ _ => .inl finish⟩
    · have outlasts := opened.outlasts_of_late (closingLag_finite winner)
        (fun o call => reach_closing (order o call) winner) member late
      refine ⟨iff_of_false (grave last member) fun low => late.not_ge (low last member),
        .inr ⟨member, outlasts⟩, fun some nonneg => .inr ?_⟩
      cases winner with
      | none => cases some
      | some w =>
          have past : (0 : Float32) + 800 ≤ moment + 800 := add_mono_left nonneg rfl
          exact outlasts.trouble past

/-- A fighter with one hit point left. -/
def survivor : FighterState :=
  { (Entrant.of Roster.smith ⟨600, 300⟩ .stock).spawnState with hp := 1 }

/-- A call without news, and one in which a fighter is down and the other one in trouble. -/
def lastGasp : List Observation :=
  [⟨4000, [], []⟩,
    ⟨5000, [], [(Entrant.of Roster.sawyer ⟨200, 300⟩ .stock).spawnState.destroy, survivor]⟩]

/-- A second later the narration of the victory closes the match. -/
theorem lastGasp_closes_later :
    (∀ o ∈ lastGasp, o.moment ≤ 6000) ∧
      ∃ last, ((((ofSeed .broadcast 7).start Roster.duel).hearAll lastGasp).finish 6000
        (some survivor) false).transcript.getLast? = some last ∧ last.occasion = .finish := by
  have order : ∀ o ∈ lastGasp, o.moment ≤ 6000 := by decide
  have low : ∀ l ∈ (((ofSeed .broadcast 7).start Roster.duel).hearAll lastGasp).lines.toList,
      l.timestamp ≤ wholeMs (closingTime 6000 (some survivor)) := by
    decide +kernel
  obtain ⟨-, -, last, ends, closes, -⟩ :=
    finish_closes_unless_outlasted .broadcast 7 Roster.duel order (some survivor) false
  exact ⟨order, last, ends, closes.mpr low⟩

/-- A match that ends in the call in which the survivor is seen in trouble: the reply on that is
the last line. -/
theorem trouble_outlasts_finish :
    lastGasp.Pairwise (fun o o' => o.moment ≤ o'.moment) ∧ (∀ o ∈ lastGasp, o.moment ≤ 5000) ∧
      ∃ last, ((((ofSeed .broadcast 7).start Roster.duel).hearAll lastGasp).finish 5000
        (some survivor) false).transcript.getLast? = some last ∧ last.occasion = .lowHp := by
  have opened := start_opened .broadcast 7 Roster.duel
  have going := (hearAll_keeps lastGasp opened.going).1
  have high : ¬ ∀ l ∈ (((ofSeed .broadcast 7).start Roster.duel).hearAll lastGasp).lines.toList,
      l.timestamp ≤ wholeMs (closingTime 5000 (some survivor)) := by
    decide +kernel
  have late : ∀ l ∈ (((ofSeed .broadcast 7).start Roster.duel).hearAll lastGasp).lines.toList,
      wholeMs (closingTime 5000 (some survivor)) < l.timestamp → l.occasion = .lowHp := by
    decide +kernel
  obtain ⟨-, -, -, last, ends, ⟨low, -⟩ | ⟨member, later⟩⟩ :=
    finish_last going 5000 (some survivor) false
  · exact absurd low high
  · exact ⟨by decide, by decide, last, ends, late last member later⟩

end Narrator

end RobotCombat
