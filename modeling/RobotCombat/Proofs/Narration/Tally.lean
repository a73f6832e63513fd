/-
# RobotCombat.Proofs.Narration.Tally — the lines of a match by occasion

What a narrator has said by a point of the match is told by what it has been shown: `Tally` is
this bookkeeping. Every fall into a pit has given its two lines, every fighter that was seen in
trouble has been called once, with two lines, and opening and end have lines of their own.
`Tally.hear` is the step, `Tally.hearAll` the run; `told_finish` adds the closing lines.

The opening and the end speak once: no further call changes a narrator that has opened or
closed (`start_once`, `finished_after`). The transcript orders the lines by time and leaves those
of one time in the order in which they were said (`transcript_stable`).
-/
import RobotCombat.Proofs.Narration.Hearing

namespace RobotCombat

set_option autoImplicit false

open Number

/-- A line that says what a cue asks for, at some time. -/
def Line.Says (l : Line) (cue : Cue) : Prop := ∃ moment, l.Answers moment cue

/-- Lines that say what cues ask for, one by one. -/
abbrev AllSaid (cues : List Cue) (said : List Line) : Prop :=
  List.Forall₂ (fun cue l => Line.Says l cue) cues said

theorem Answered.allSaid {moment : Float32} {cues : List Cue} {said : List Line}
    (answers : Answered moment cues said) : AllSaid cues said :=
  answers.imp fun _ _ answer => ⟨moment, answer⟩

theorem Answered.occasion {moment : Float32} {cues : List Cue} {said : List Line} {o : Occasion}
    (answers : Answered moment cues said) (all : ∀ cue ∈ cues, cue.occasion = o) :
    ∀ l ∈ said, l.occasion = o := by
  induction answers with
  | nil => nofun
  | cons answer _ ih =>
      rw [List.forall_mem_cons] at all ⊢
      exact ⟨answer.occasion.trans all.1, ih all.2⟩

/-- Where every thing gives two cues, there are two lines for each. -/
theorem AllSaid.length_of_pairs {α : Type} {as : List α} {cues : α → List Cue} {said : List Line}
    (all : AllSaid (as.flatMap cues) said) (pairs : ∀ a, (cues a).length = 2) :
    said.length = 2 * as.length := by
  rw [← List.Forall₂.length_eq all]
  clear all
  induction as with
  | nil => rfl
  | cons a as ih =>
      rw [List.flatMap_cons, List.length_append, ih, pairs, List.length_cons, Nat.mul_succ,
        Nat.add_comm]

/-- Whether a hit is a fall into a pit. -/
def DamageEvent.isFall (e : DamageEvent) : Bool := e.cause = .pit

namespace Narrator

/-- The lines of an occasion. -/
def told (n : Narrator) (o : Occasion) : List Line :=
  n.lines.toList.filter fun l => l.occasion = o

/-! ## One call -/

section Reactions

variable (n : Narrator)

/-- All falls of a call are called, and nothing else is a call of a fall. -/
theorem reactAll_falls (moment : Float32) :
    ∀ (events : List DamageEvent) (calls : Calls),
      ((reactAll (n.atDamage moment) calls events).1.filter fun cue => cue.occasion = .pitFall) =
        (events.filter DamageEvent.isFall).flatMap fun e => Cue.pitFall (n.hitValues e)
  | [], _ => rfl
  | e :: events, calls => by
      have each : ((n.atDamage moment calls e).1.filter fun cue => cue.occasion = .pitFall) =
          if e.isFall then Cue.pitFall (n.hitValues e) else [] := by
        unfold atDamage atWallSlam atBigHit DamageEvent.isFall
        cases e.cause <;> dsimp only <;> (try split) <;>
          simp_all [Cue.pitFall, Cue.wallSlam, Cue.bigHit]
      unfold reactAll
      rw [List.filter_append, each, reactAll_falls moment events, List.filter_cons]
      split <;> simp

theorem atState_of_fresh {n : Narrator} {calls : Calls} {s : FighterState}
    (trouble : s.isInTrouble = true) (fresh : s.id ∉ calls.inTrouble) :
    n.atState calls s =
      (Cue.lowHp (n.nameOf s.id), { calls with inTrouble := s.id :: calls.inTrouble }) := by
  unfold atState
  rw [if_pos (by simp [trouble, fresh])]

theorem atState_of_known {n : Narrator} {calls : Calls} {s : FighterState}
    (known : s.isInTrouble = true → s.id ∈ calls.inTrouble) : n.atState calls s = ([], calls) := by
  unfold atState
  rw [if_neg (by simpa using known)]

/-- Fighters in trouble that were not known before are called, each of them once. -/
structure CallsTrouble (states : List FighterState) (before after : List String)
    (cues : List Cue) (ids : List String) : Prop where
  cues : cues = ids.flatMap fun id => Cue.lowHp (n.nameOf id)
  called : after = ids.reverse ++ before
  once : before.Nodup → after.Nodup
  listed : ∀ id, id ∈ after ↔ id ∈ before ∨ ∃ s ∈ states, s.id = id ∧ s.isInTrouble = true

theorem reactAll_troubles :
    ∀ (states : List FighterState) (calls : Calls), ∃ ids,
      n.CallsTrouble states calls.inTrouble (reactAll n.atState calls states).2.inTrouble
        (reactAll n.atState calls states).1 ids
  | [], calls => ⟨[], rfl, rfl, fun once => once, by simp [reactAll]⟩
  | s :: states, calls => by
      obtain ⟨ids, cues, called, once, listed⟩ := reactAll_troubles states (n.atState calls s).2
      unfold reactAll
      rw [cues]
      by_cases known : s.isInTrouble = true → s.id ∈ calls.inTrouble
      · rw [atState_of_known known] at called once listed ⊢
        refine ⟨ids, rfl, called, once, fun id => ?_⟩
        rw [listed, List.exists_mem_cons_iff]
        constructor
        · exact Or.imp_right .inr
        · rintro (before | ⟨rfl, trouble⟩ | later)
          · exact .inl before
          · exact .inl (known trouble)
          · exact .inr later
      · obtain ⟨trouble, fresh⟩ := Classical.not_imp.mp known
        rw [atState_of_fresh trouble fresh] at called once listed ⊢
        refine ⟨s.id :: ids, rfl, ?_, fun before => once (before.cons fresh), fun id => ?_⟩
        · rw [called, List.reverse_cons, List.append_assoc]
          rfl
        · rw [listed, List.exists_mem_cons_iff, List.mem_cons]
          constructor
          · rintro ((rfl | before) | later)
            · exact .inr (.inl ⟨rfl, trouble⟩)
            · exact .inl before
            · exact .inr (.inr later)
          · rintro (before | ⟨rfl, -⟩ | later)
            · exact .inl (.inr before)
            · exact .inl (.inl rfl)
            · exact .inr later

end Reactions

theorem atDamage_inTrouble (n : Narrator) (moment : Float32) (calls : Calls) (e : DamageEvent) :
    (n.atDamage moment calls e).2.inTrouble = calls.inTrouble := by
  unfold atDamage atWallSlam atBigHit
  split
  · rfl
  · split <;> rfl
  · split <;> rfl

theorem filter_of_others {cues : List Cue} {o : Occasion}
    (others : ∀ cue ∈ cues, cue.occasion ≠ o) : (cues.filter fun cue => cue.occasion = o) = [] :=
  List.filter_eq_nil_iff.mpr fun cue member same => others cue member (of_decide_eq_true same)

theorem falls_of_call (n : Narrator) (o : Observation) :
    ((n.atCall o).1.filter fun cue => cue.occasion = .pitFall) =
      (o.events.filter DamageEvent.isFall).flatMap fun e => Cue.pitFall (n.hitValues e) := by
  have others : ((reactAll n.atState (reactAll (n.atDamage o.moment) n.calls o.events).2
      o.states).1.filter fun cue => cue.occasion = .pitFall) = [] := by
    refine filter_of_others fun cue member => ?_
    rw [reactAll_cues n.atState_occasion _ _ cue member]
    decide
  unfold atCall atTick
  rw [List.filter_append, others, List.append_nil, reactAll_falls]

theorem troubles_of_call (n : Narrator) (o : Observation) : ∃ ids,
    n.CallsTrouble o.states n.lowHpCalled (n.atCall o).2.inTrouble
      ((n.atCall o).1.filter fun cue => cue.occasion = .lowHp) ids := by
  have others : ((reactAll (n.atDamage o.moment) n.calls o.events).1.filter
      fun cue => cue.occasion = .lowHp) = [] := by
    refine filter_of_others fun cue member low => ?_
    have listed := reactAll_cues (n.atDamage_occasion o.moment) _ _ cue member
    rw [low] at listed
    revert listed
    decide
  have all : ((reactAll n.atState (reactAll (n.atDamage o.moment) n.calls o.events).2
      o.states).1.filter fun cue => cue.occasion = .lowHp) = _ :=
    List.filter_eq_self.mpr fun cue member =>
      decide_eq_true (reactAll_cues n.atState_occasion _ _ cue member)
  have troubles := n.reactAll_troubles o.states (reactAll (n.atDamage o.moment) n.calls o.events).2
  rw [reactAll_keeps Calls.inTrouble (n.atDamage_inTrouble o.moment)] at troubles
  unfold atCall atTick
  rw [List.filter_append, others, List.nil_append, all]
  exact troubles

/-- No call is about the opening or the end. -/
theorem silent_of_call (n : Narrator) (o : Observation) {occasion : Occasion}
    (outside : occasion ∉ [.pitFall, .wallSlam, .bigHit, .lowHp]) :
    ((n.atCall o).1.filter fun cue => cue.occasion = occasion) = [] :=
  filter_of_others fun cue member same =>
    outside (same ▸ n.atTick_occasion o.moment n.calls o.events o.states cue member)

theorem told_hear {n : Narrator} (going : n.finished = false) (o : Observation)
    (occasion : Occasion) (certain : ∀ s, occasion.isReply s = false) (grave : occasion ≠ .banter) :
    ∃ said, (n.hear o).told occasion = n.told occasion ++ said ∧
      Answered o.moment ((n.atCall o).1.filter fun cue => cue.occasion = occasion) said := by
  have continues := hear_continues going o
  have answers := continues.filter (fun o _ => o = occasion)
    (fun o s same => of_decide_eq_true same ▸ certain s) fun _ => decide_eq_false grave.symm
  refine ⟨_, ?_, answers⟩
  unfold told
  rw [continues.lines, List.filter_append]

/-- A call adds nothing to the lines of the opening and of the end. -/
theorem told_hear_of_outside {n : Narrator} (going : n.finished = false) (o : Observation)
    {occasion : Occasion} (certain : ∀ s, occasion.isReply s = false) (grave : occasion ≠ .banter)
    (outside : occasion ∉ [.pitFall, .wallSlam, .bigHit, .lowHp]) :
    (n.hear o).told occasion = n.told occasion := by
  obtain ⟨said, eq, answers⟩ := told_hear going o occasion certain grave
  rw [n.silent_of_call o outside] at answers
  rw [eq, List.forall₂_nil_left_iff.mp answers, List.append_nil]

/-! ## All calls -/

/-- What has been said of all the damage and all the states that were seen. -/
structure Tally (n : Narrator) (damage : List DamageEvent) (seen : List FighterState) : Prop where
  opening : (n.told .start).length = 2
  closing : n.told .finish = []
  falls : AllSaid ((damage.filter DamageEvent.isFall).flatMap fun e => Cue.pitFall (n.hitValues e))
    (n.told .pitFall)
  troubles : AllSaid (n.lowHpCalled.reverse.flatMap fun id => Cue.lowHp (n.nameOf id))
    (n.told .lowHp)
  once : n.lowHpCalled.Nodup
  listed : ∀ id, id ∈ n.lowHpCalled ↔ ∃ s ∈ seen, s.id = id ∧ s.isInTrouble = true

theorem Opened.tally {settings : NarrationSettings} {n : Narrator} (opened : Opened settings n) :
    n.Tally [] [] := by
  have all : n.told .start = n.lines.toList :=
    List.filter_eq_self.mpr fun l member => decide_eq_true (opened.occasion l member)
  have none : ∀ {o : Occasion}, o ≠ .start → n.told o = [] := by
    intro o other
    refine List.filter_eq_nil_iff.mpr fun l member same => other ?_
    rw [← of_decide_eq_true same, opened.occasion l member]
  have uncalled : n.lowHpCalled = [] := congrArg Calls.inTrouble opened.calls
  have two : n.lines.toList.length = 2 := by
    have times := congrArg List.length opened.times
    rw [List.length_map] at times
    exact times
  refine ⟨?_, none (by decide), ?_, ?_, ?_, ?_⟩
  · rw [all, two]
  · rw [none (by decide)]
    exact .nil
  · rw [none (by decide), uncalled]
    exact .nil
  · rw [uncalled]
    exact List.nodup_nil
  · rw [uncalled]
    simp

theorem Tally.hear {n : Narrator} {damage : List DamageEvent} {seen : List FighterState}
    (tally : n.Tally damage seen) (going : n.finished = false) (o : Observation) :
    (n.hear o).Tally (damage ++ o.events) (seen ++ o.states) := by
  have continues := hear_continues going o
  have called : (n.hear o).lowHpCalled = (n.atCall o).2.inTrouble :=
    congrArg Calls.inTrouble continues.calls
  obtain ⟨falls, fell, falling⟩ := told_hear going o .pitFall (fun _ => rfl) (by decide)
  obtain ⟨troubles, low, sinking⟩ := told_hear going o .lowHp (fun _ => rfl) (by decide)
  obtain ⟨ids, cues, all, once, listed⟩ := n.troubles_of_call o
  rw [falls_of_call] at falling
  rw [cues] at sinking
  constructor
  · rw [told_hear_of_outside going o (fun _ => rfl) (by decide) (by decide)]
    exact tally.opening
  · rw [told_hear_of_outside going o (fun _ => rfl) (by decide) (by decide)]
    exact tally.closing
  · rw [hitValues_congr continues.names, fell, List.filter_append, List.flatMap_append]
    exact List.rel_append tally.falls falling.allSaid
  · rw [called, nameOf_congr continues.names, low, all, List.reverse_append, List.reverse_reverse,
      List.flatMap_append]
    exact List.rel_append tally.troubles sinking.allSaid
  · rw [called]
    exact once tally.once
  · intro id
    rw [called, listed, tally.listed]
    simp only [List.mem_append, or_and_right, exists_or]

theorem Tally.hearAll {n : Narrator} {damage : List DamageEvent} {seen : List FighterState}
    (tally : n.Tally damage seen) (going : n.finished = false) (os : List Observation) :
    (n.hearAll os).Tally (damage ++ os.flatMap (·.events)) (seen ++ os.flatMap (·.states)) := by
  induction os generalizing n damage seen with
  | nil =>
      rw [List.flatMap_nil, List.flatMap_nil, List.append_nil, List.append_nil]
      exact tally
  | cons o os ih =>
      rw [List.flatMap_cons, List.flatMap_cons, ← List.append_assoc, ← List.append_assoc]
      exact ih (tally.hear going o) ((hear_continues going o).finished.trans going)

/-! ## The end -/

/-- The closing lines come last, and there are no others of the end. -/
theorem told_finish {n : Narrator} (going : n.finished = false) (moment : Float32)
    (winner : Option FighterState) (timedOut : Bool) :
    (∃ said, (n.finish moment winner timedOut).told .finish = n.told .finish ++ said ∧
      Answered moment (n.finishCues winner timedOut) said) ∧
      ∀ o ≠ .finish, (n.finish moment winner timedOut).told o = n.told o := by
  obtain ⟨stream, said, answers, eq⟩ := finish_eq going moment winner timedOut
  have closing : ∀ l ∈ said, l.occasion = .finish := by
    refine answers.occasion ?_
    unfold finishCues
    cases winner <;> simp [Cue.victory, Cue.draw]
  have lines := toList_utter { n with finished := true } moment stream said
  unfold told
  rw [eq, lines]
  refine ⟨⟨said, ?_, answers⟩, fun o other => ?_⟩
  · have all : (said.filter fun l => l.occasion = .finish) = said :=
      List.filter_eq_self.mpr fun l member => decide_eq_true (closing l member)
    rw [List.filter_append, all]
  · have none : (said.filter fun l => l.occasion = o) = [] :=
      List.filter_eq_nil_iff.mpr fun l member same =>
        other (of_decide_eq_true same ▸ closing l member)
    rw [List.filter_append, none, List.append_nil]

/-! ## Further calls -/

/-- A call of a narrator. -/
inductive Call where
  | start (r : Roster)
  | observe (o : Observation)
  | finish (moment : Float32) (winner : Option FighterState) (timedOut : Bool)

def perform (n : Narrator) : Call → Narrator
  | .start r => n.start r
  | .observe o => n.hear o
  | .finish moment winner timedOut => n.finish moment winner timedOut

def performAll (n : Narrator) (calls : List Call) : Narrator := calls.foldl perform n

theorem start_flags (n : Narrator) (r : Roster) :
    (n.start r).started = true ∧ (n.start r).finished = n.finished := by
  cases started : n.started with
  | true =>
      rw [start_of_started started]
      exact ⟨started, rfl⟩
  | false =>
      obtain ⟨stream, said, -, eq⟩ := start_eq started r
      rw [eq]
      exact ⟨rfl, rfl⟩

theorem hear_flags (n : Narrator) (o : Observation) :
    (n.hear o).started = n.started ∧ (n.hear o).finished = n.finished := by
  cases finished : n.finished with
  | true =>
      unfold hear
      rw [observe_of_finished finished]
      exact ⟨rfl, finished⟩
  | false =>
      have continues := hear_continues finished o
      exact ⟨continues.started, continues.finished.trans finished⟩

theorem finish_flags (n : Narrator) (moment : Float32) (winner : Option FighterState)
    (timedOut : Bool) :
    (n.finish moment winner timedOut).started = n.started ∧
      (n.finish moment winner timedOut).finished = true := by
  cases finished : n.finished with
  | true =>
      rw [finish_of_finished finished]
      exact ⟨rfl, finished⟩
  | false =>
      obtain ⟨stream, said, -, eq⟩ := finish_eq finished moment winner timedOut
      rw [eq]
      exact ⟨rfl, rfl⟩

/-- Whatever has begun or ended stays so. -/
theorem perform_flags (n : Narrator) (call : Call) :
    (n.started = true → (n.perform call).started = true) ∧
      (n.finished = true → (n.perform call).finished = true) := by
  cases call with
  | start r =>
      obtain ⟨started, finished⟩ := n.start_flags r
      exact ⟨fun _ => started, finished.trans⟩
  | observe o =>
      obtain ⟨started, finished⟩ := n.hear_flags o
      exact ⟨started.trans, finished.trans⟩
  | finish moment winner timedOut =>
      obtain ⟨started, finished⟩ := n.finish_flags moment winner timedOut
      exact ⟨started.trans, fun _ => finished⟩

theorem performAll_flags (calls : List Call) (n : Narrator) :
    (n.started = true → (n.performAll calls).started = true) ∧
      (n.finished = true → (n.performAll calls).finished = true) := by
  induction calls generalizing n with
  | nil => exact ⟨id, id⟩
  | cons call calls ih =>
      obtain ⟨started, finished⟩ := n.perform_flags call
      obtain ⟨started', finished'⟩ := ih (n.perform call)
      exact ⟨started' ∘ started, finished' ∘ finished⟩

theorem start_once (n : Narrator) (r r' : Roster) (calls : List Call) :
    ((n.start r).performAll calls).start r' = (n.start r).performAll calls :=
  start_of_started ((performAll_flags calls _).1 (n.start_flags r).1) r'

theorem finished_after (n : Narrator) (moment : Float32) (winner : Option FighterState)
    (timedOut : Bool) (calls : List Call) :
    ((n.finish moment winner timedOut).performAll calls).finished = true :=
  (performAll_flags calls _).2 (n.finish_flags moment winner timedOut).2

/-- Once both have been said, no calls at all change a narrator. -/
theorem performAll_of_done {n : Narrator} (started : n.started = true)
    (finished : n.finished = true) (calls : List Call) : n.performAll calls = n := by
  induction calls with
  | nil => rfl
  | cons call calls ih =>
      have same : n.perform call = n := by
        cases call with
        | start r => exact start_of_started started r
        | observe o => exact observe_of_finished finished _ _ _
        | finish moment winner timedOut => exact finish_of_finished finished _ _ _
      show (n.perform call).performAll calls = n
      rw [same, ih]

/-! ## The transcript -/

/-- The transcript has the lines in the order of their times, and those of one time in the
order in which they were said. -/
theorem transcript_stable (n : Narrator) :
    n.transcript.Perm n.lines.toList ∧
      n.transcript.Pairwise (fun a b => a.timestamp ≤ b.timestamp) ∧
      ∀ t, n.transcript.filter (fun l => l.timestamp = t) =
        n.lines.toList.filter fun l => l.timestamp = t := by
  have trans : ∀ a b c : Line, decide (a.timestamp ≤ b.timestamp) = true →
      decide (b.timestamp ≤ c.timestamp) = true → decide (a.timestamp ≤ c.timestamp) = true := by
    intro a b c low high
    exact decide_eq_true ((of_decide_eq_true low).trans (of_decide_eq_true high))
  have total : ∀ a b : Line,
      (decide (a.timestamp ≤ b.timestamp) || decide (b.timestamp ≤ a.timestamp)) = true := by
    intro a b
    simpa using Nat.le_total a.timestamp b.timestamp
  have perm : n.transcript.Perm n.lines.toList := List.mergeSort_perm _ _
  have sorted : n.transcript.Pairwise fun a b => decide (a.timestamp ≤ b.timestamp) = true :=
    List.pairwise_mergeSort trans total _
  refine ⟨perm, sorted.imp of_decide_eq_true, fun t => ?_⟩
  -- lines of one time are in order as they are, so the sort keeps them in a row
  have even : (n.lines.toList.filter fun l => l.timestamp = t).Pairwise
      fun a b => decide (a.timestamp ≤ b.timestamp) = true := by
    refine List.pairwise_of_forall_mem_list fun a memberA b memberB => decide_eq_true ?_
    rw [of_decide_eq_true (List.mem_filter.mp memberA).2,
      of_decide_eq_true (List.mem_filter.mp memberB).2]
  have kept : (n.lines.toList.filter fun l => l.timestamp = t).Sublist n.transcript :=
    List.sublist_mergeSort trans total even List.filter_sublist
  have within := kept.filter fun l => decide (l.timestamp = t)
  rw [List.filter_filter] at within
  simp only [Bool.and_self] at within
  exact (within.eq_of_length (perm.filter _).length_eq.symm).symm

end Narrator

end RobotCombat
