/-
# RobotCombat.Proofs.Narration.Utterances — what each operation of a narrator says

An operation speaks about a moment. A `Cue` is what it has to say, up to the choice of a
template; the line that comes of it `Answers` the cue. When the line is meant to be heard is
a matter of its occasion and speaker alone (`Occasion.dueAt`), so it can be read off the line
once the moment is known.

Every operation comes down to `utter`: some lines are added, the stream moves on, and the
latest time is brought up to date. `say_eq` shows it for a cue, from the fact that a choice
from a pool never fails (`exists_choose`); the operations on hits, falls and fighters in
trouble follow, each with the cues it answers.
-/
import Mathlib
import RobotCombat.Narration.Narrator

namespace RobotCombat

set_option autoImplicit false

/-! ## Choices -/

namespace Random.Stream

theorem below_lt {n : Nat} (positive : 0 < n) :
    ∀ (draws : Nat) (s : Stream), (below draws n s).1 < n
  | 0, _ => positive
  | draws + 1, s => by
      unfold below
      dsimp only
      split
      · rw [Nat.div_lt_iff_lt_mul (by decide), Nat.mul_comm n]
        exact Nat.mul_lt_mul_of_pos_right s.word.1.toNat_lt positive
      · exact below_lt positive draws s.word.2

/-- Of some things one is chosen. -/
theorem exists_choose {α : Type} {items : List α} (some : items ≠ []) (s : Stream) :
    ∃ x ∈ items, ∃ s', s.choose items = (.some x, s') := by
  unfold choose
  rw [if_neg (by simp [some])]
  have inside := below_lt (List.length_pos_iff.mpr some) maxDraws s
  generalize below maxDraws items.length s = drawn at inside ⊢
  exact ⟨items[drawn.1], List.getElem_mem inside, drawn.2,
    congrArg (·, drawn.2) (List.getElem?_eq_getElem inside)⟩

end Random.Stream

open Number
open Narration (Template Slot fill)
open RobotCombat.Random (Stream)

/-! ## Cues and lines -/

/-- When a line about a moment is meant to be heard. -/
def Occasion.dueAt (moment : Float32) : Occasion → Speaker → Float32
  | .start, .frank => moment + 800
  | .bigHit, .frank => moment + 600
  | .wallSlam, .frank => moment + 500
  | .pitFall, .frank => moment + 600
  | .lowHp, .chuck => moment + 200
  | .lowHp, .frank => moment + 900
  | .finish, .frank => moment + 800
  | _, _ => moment

/-- When a line that was said about a moment is meant to be heard. -/
def Line.due (moment : Float32) (l : Line) : Float32 := l.occasion.dueAt moment l.speaker

/-- What there is to say, up to the choice of a template. -/
structure Cue where
  occasion : Occasion
  speaker : Speaker
  excitement : Nat
  pool : List Template
  values : List (Slot × String)
  ready : pool ≠ [] := by decide

/-- A line that says what a cue asks for, about a moment. -/
structure Line.Answers (l : Line) (moment : Float32) (cue : Cue) : Prop where
  occasion : l.occasion = cue.occasion
  speaker : l.speaker = cue.speaker
  excitement : l.excitement = max 1 (min cue.excitement 10)
  timestamp : l.timestamp = Narrator.wholeMs (l.due moment)
  message : ∃ template ∈ cue.pool, l.message = String.ofList (fill cue.values template.text)

namespace Cue

open Narration

/-- The opening and the reply to it. -/
def opening (values : List (Slot × String)) : List Cue :=
  [{ occasion := .start, speaker := .chuck, excitement := 7, pool := Pool.startOpening, values },
    { occasion := .start, speaker := .frank, excitement := 6, pool := Pool.startReply, values }]

/-- A heavy hit. -/
def bigHit (damage : Float32) (values : List (Slot × String)) : Cue :=
  { occasion := .bigHit, speaker := .chuck, excitement := Narrator.hitExcitement damage,
    pool := Pool.bigHit, values }

def bigHitReply (damage : Float32) (values : List (Slot × String)) : Cue :=
  { occasion := .bigHit, speaker := .frank,
    excitement := max (Narrator.hitExcitement damage - 1) 1, pool := Pool.bigHitReply, values }

/-- A hard impact on a wall. -/
def wallSlam (values : List (Slot × String)) : Cue :=
  { occasion := .wallSlam, speaker := .chuck, excitement := 6, pool := Pool.wallSlam, values }

def wallSlamReply (values : List (Slot × String)) : Cue :=
  { occasion := .wallSlam, speaker := .frank, excitement := 5, pool := Pool.wallSlamReply, values }

/-- A fall into a pit and the reply to it. -/
def pitFall (values : List (Slot × String)) : List Cue :=
  [{ occasion := .pitFall, speaker := .chuck, excitement := 10, pool := Pool.pitFall, values },
    { occasion := .pitFall, speaker := .frank, excitement := 9, pool := Pool.pitFallReply, values }]

/-- A fighter in trouble and the reply to it. -/
def lowHp (name : String) : List Cue :=
  [{ occasion := .lowHp, speaker := .chuck, excitement := 8, pool := Pool.lowHp,
     values := [(.target, name)] },
    { occasion := .lowHp, speaker := .frank, excitement := 7, pool := Pool.lowHpReply,
      values := [(.target, name)] }]

/-- A victory and the reply to it. -/
def victory (values : List (Slot × String)) : List Cue :=
  [{ occasion := .finish, speaker := .chuck, excitement := 10, pool := Pool.finishWin, values },
    { occasion := .finish, speaker := .frank, excitement := 9, pool := Pool.finishWinReply,
      values }]

/-- A draw. -/
def draw (timedOut : Bool) : Cue :=
  { occasion := .finish, speaker := .both, excitement := 10
    pool := if timedOut then Pool.finishTimeUp else Pool.finishDoubleKnockout
    values := []
    ready := by cases timedOut <;> decide }

end Cue

/-- Lines that answer cues, one by one and about one moment. -/
abbrev Answered (moment : Float32) (cues : List Cue) (said : List Line) : Prop :=
  List.Forall₂ (fun cue l => Line.Answers l moment cue) cues said

/-! ## Utterances -/

namespace Narrator

/-- The latest of a time and those of lines said about a moment. -/
def latest (moment : Float32) (time : Float32) (said : List Line) : Float32 :=
  said.foldl (fun time l => larger time (l.due moment)) time

/-- The narrator once lines about a moment are said. -/
def utter (n : Narrator) (moment : Float32) (stream : Stream) (said : List Line) : Narrator :=
  { n with
    stream := stream
    lines := n.lines ++ said
    lastLineAt := latest moment n.lastLineAt said }

theorem toList_utter (n : Narrator) (moment : Float32) (stream : Stream) (said : List Line) :
    (n.utter moment stream said).lines.toList = n.lines.toList ++ said :=
  Array.toList_appendList

@[simp] theorem utter_utter (n : Narrator) (moment : Float32) (stream stream' : Stream)
    (said said' : List Line) :
    (n.utter moment stream said).utter moment stream' said' =
      n.utter moment stream' (said ++ said') := by
  have lines : n.lines ++ said ++ said' = n.lines ++ (said ++ said') := Array.ext' (by simp)
  simp [utter, latest, lines]

theorem utter_nil (n : Narrator) (moment : Float32) (stream : Stream) :
    n.utter moment stream [] = { n with stream := stream } := by
  simp [utter, latest]

theorem push_eq (n : Narrator) (moment : Float32) (occasion : Occasion) (message : String)
    (speaker : Speaker) (excitement : Nat) :
    n.push (occasion.dueAt moment speaker) occasion message speaker excitement =
      n.utter moment n.stream [⟨wholeMs (occasion.dueAt moment speaker), occasion, message,
        speaker, max 1 (min excitement 10)⟩] := by
  simp [push, utter, latest, Line.due]

/-- What a cue asks for is said. -/
theorem say_eq (n : Narrator) (moment : Float32) (cue : Cue) :
    ∃ stream l, l.Answers moment cue ∧
      n.say (cue.occasion.dueAt moment cue.speaker) cue.occasion cue.pool cue.speaker
        cue.excitement cue.values = n.utter moment stream [l] := by
  obtain ⟨template, listed, stream, chosen⟩ := Stream.exists_choose cue.ready n.stream
  unfold say
  rw [chosen]
  dsimp only
  rw [push_eq]
  exact ⟨stream, _, ⟨rfl, rfl, rfl, rfl, template, listed, rfl⟩, rfl⟩

/-- Two cues in a row. -/
theorem say_say_eq (n : Narrator) (moment : Float32) (cue cue' : Cue) :
    ∃ stream said, Answered moment [cue, cue'] said ∧
      (n.say (cue.occasion.dueAt moment cue.speaker) cue.occasion cue.pool cue.speaker
        cue.excitement cue.values).say (cue'.occasion.dueAt moment cue'.speaker) cue'.occasion
          cue'.pool cue'.speaker cue'.excitement cue'.values = n.utter moment stream said := by
  obtain ⟨stream, l, answer, first⟩ := n.say_eq moment cue
  obtain ⟨stream', l', answer', second⟩ := (n.utter moment stream [l]).say_eq moment cue'
  refine ⟨stream', [l, l'], .cons answer (.cons answer' .nil), ?_⟩
  rw [first, second, utter_utter]
  rfl

/-! ## The operations -/

/-- A narrator names things by the names it knows, and by nothing else. -/
theorem nameOf_congr {n n' : Narrator} (names : n'.names = n.names) : n'.nameOf = n.nameOf := by
  funext id
  unfold nameOf
  rw [names]

theorem hitValues_congr {n n' : Narrator} (names : n'.names = n.names) :
    n'.hitValues = n.hitValues := by
  funext e
  unfold hitValues
  rw [nameOf_congr names]

/-- The values of the opening lines. -/
def openingValues (r : Roster) : List (Slot × String) :=
  let names := r.entrants.map fun e => e.build.displayName
  [(.a, names[0]?.getD ""), (.b, names[1]?.getD "")]

/-- The narrator once it knows the fighters. -/
def introduced (n : Narrator) (r : Roster) : Narrator :=
  { n with
    started := true
    names := r.entrants.map fun e => (e.id, e.build.displayName) }

theorem start_eq {n : Narrator} (silent : n.started = false) (r : Roster) :
    ∃ stream said, Answered 0 (Cue.opening (openingValues r)) said ∧
      n.start r = (n.introduced r).utter 0 stream said := by
  obtain ⟨stream, said, answers, eq⟩ := (n.introduced r).say_say_eq 0
    { occasion := .start, speaker := .chuck, excitement := 7
      pool := Narration.Pool.startOpening, values := openingValues r }
    { occasion := .start, speaker := .frank, excitement := 6
      pool := Narration.Pool.startReply, values := openingValues r }
  refine ⟨stream, said, answers, eq ▸ ?_⟩
  have reply : Occasion.start.dueAt 0 .frank = 800 := by decide
  unfold start
  rw [silent, if_neg (by decide)]
  dsimp only
  rw [reply]
  rfl

theorem pitFall_eq (n : Narrator) (moment : Float32) (e : DamageEvent) :
    ∃ stream said, Answered moment (Cue.pitFall (n.hitValues e)) said ∧
      n.pitFall moment e = n.utter moment stream said :=
  n.say_say_eq moment _ _

theorem lowHp_eq (n : Narrator) (moment : Float32) (id : String) :
    ∃ stream said, Answered moment (Cue.lowHp (n.nameOf id)) said ∧
      n.lowHp moment id = n.utter moment stream said :=
  n.say_say_eq moment _ _

/-- A reply that is made or not. -/
def MayReply (moment : Float32) (cue : Cue) (said : List Line) : Prop :=
  said = [] ∨ ∃ l, l.Answers moment cue ∧ said = [l]

/-- A roll decides whether there is a reply. -/
theorem roll_reply_eq (n : Narrator) (moment : Float32) (chance : Float) (cue : Cue) :
    ∃ stream said, MayReply moment cue said ∧
      (if (n.roll chance).1 then
        (n.roll chance).2.say (cue.occasion.dueAt moment cue.speaker) cue.occasion cue.pool
          cue.speaker cue.excitement cue.values
      else (n.roll chance).2) = n.utter moment stream said := by
  have rolled : (n.roll chance).2 = n.utter moment (n.stream.roll chance).2 [] :=
    (utter_nil _ _ _).symm
  rw [rolled]
  split
  · obtain ⟨stream, l, answer, eq⟩ := (n.utter moment (n.stream.roll chance).2 []).say_eq moment cue
    rw [eq, utter_utter]
    exact ⟨stream, [l], .inr ⟨l, answer, rfl⟩, rfl⟩
  · exact ⟨(n.stream.roll chance).2, [], .inl rfl, rfl⟩

/-- Whether a hit is called, with a threshold to pass and a window since the last call. -/
def Open (threshold window : Float32) (last : Option Float32) (moment : Float32)
    (e : DamageEvent) : Prop :=
  ¬ e.damage ≤ threshold ∧ windowElapsed last moment window = true

theorem not_open_iff {threshold window : Float32} {last : Option Float32} {moment : Float32}
    {e : DamageEvent} :
    ¬ Open threshold window last moment e ↔
      (decide (e.damage ≤ threshold) || !windowElapsed last moment window) = true := by
  unfold Open
  by_cases low : e.damage ≤ threshold <;> simp [low]

theorem bigHit_of_closed {n : Narrator} {moment : Float32} {e : DamageEvent}
    (closed : ¬ Open n.settings.bigHitThreshold n.settings.bigHitWindowMs n.lastBigHit moment e) :
    n.bigHit moment e = n := by
  unfold bigHit
  rw [if_pos (not_open_iff.mp closed)]

theorem bigHit_of_open {n : Narrator} {moment : Float32} {e : DamageEvent}
    (opens : Open n.settings.bigHitThreshold n.settings.bigHitWindowMs n.lastBigHit moment e) :
    ∃ stream l replies, l.Answers moment (.bigHit e.damage (n.hitValues e)) ∧
      MayReply moment (.bigHitReply e.damage (n.hitValues e)) replies ∧
      n.bigHit moment e =
        { n with lastBigHit := some moment }.utter moment stream (l :: replies) := by
  let called : Narrator := { n with lastBigHit := some moment }
  obtain ⟨stream, l, answer, first⟩ := called.say_eq moment (.bigHit e.damage (n.hitValues e))
  change called.say moment .bigHit Narration.Pool.bigHit .chuck (hitExcitement e.damage)
    (n.hitValues e) = _ at first
  obtain ⟨stream', replies, reply, second⟩ := (called.utter moment stream [l]).roll_reply_eq moment
    n.settings.bigHitFollowUp (.bigHitReply e.damage (n.hitValues e))
  unfold bigHit
  rw [if_neg (fun closed => not_open_iff.mpr closed opens)]
  dsimp only
  rw [first]
  split
  · refine ⟨stream', l, replies, answer, reply, second.trans ?_⟩
    rw [utter_utter]
    rfl
  · exact ⟨stream, l, [], answer, .inl rfl, rfl⟩

theorem wallSlam_of_closed {n : Narrator} {moment : Float32} {e : DamageEvent}
    (closed : ¬ Open n.settings.wallSlamThreshold n.settings.wallSlamWindowMs n.lastWallSlam
      moment e) : n.wallSlam moment e = n := by
  unfold wallSlam
  rw [if_pos (not_open_iff.mp closed)]

theorem wallSlam_of_open {n : Narrator} {moment : Float32} {e : DamageEvent}
    (opens : Open n.settings.wallSlamThreshold n.settings.wallSlamWindowMs n.lastWallSlam
      moment e) :
    ∃ stream l replies, l.Answers moment (.wallSlam (n.hitValues e)) ∧
      MayReply moment (.wallSlamReply (n.hitValues e)) replies ∧
      n.wallSlam moment e =
        { n with lastWallSlam := some moment }.utter moment stream (l :: replies) := by
  let called : Narrator := { n with lastWallSlam := some moment }
  obtain ⟨stream, l, answer, first⟩ := called.say_eq moment (.wallSlam (n.hitValues e))
  change called.say moment .wallSlam Narration.Pool.wallSlam .chuck 6 (n.hitValues e) = _ at first
  obtain ⟨stream', replies, reply, second⟩ := (called.utter moment stream [l]).roll_reply_eq moment
    n.settings.wallSlamFollowUp (.wallSlamReply (n.hitValues e))
  unfold wallSlam
  rw [if_neg (fun closed => not_open_iff.mpr closed opens)]
  dsimp only
  rw [first]
  refine ⟨stream', l, replies, answer, reply, second.trans ?_⟩
  rw [utter_utter]
  rfl

/-- A line of banter. -/
def banterLine (moment : Float32) (remark : Speaker × String) : Line :=
  ⟨wholeMs moment, .banter, remark.2, remark.1, 5⟩

/-- Banter is made only if it is due; without it nothing is said. -/
theorem maybeBanter_cases (n : Narrator) (moment : Float32) :
    (∃ roll stream, n.maybeBanter moment =
        { n with lastBanterRoll := roll }.utter moment stream []) ∨
      n.banterDue moment = true ∧ ∃ remark ∈ Narration.Pool.banter, ∃ stream,
        n.maybeBanter moment =
          { n with
            lastBanterRoll := some moment
            banterCount := n.banterCount + 1 }.utter moment stream [banterLine moment remark] := by
  unfold maybeBanter
  cases due : n.banterDue moment with
  | false => exact .inl ⟨n.lastBanterRoll, n.stream, (utter_nil _ _ _).symm⟩
  | true =>
      rw [if_pos rfl]
      unfold roll
      dsimp only
      split
      · have ready : Narration.Pool.banter ≠ [] := by decide
        obtain ⟨remark, listed, stream, chosen⟩ := Stream.exists_choose ready
          (n.stream.roll n.settings.banterChance).2
        rw [chosen]
        refine .inr ⟨rfl, remark, listed, stream, ?_⟩
        exact push_eq _ moment .banter remark.2 remark.1 5
      · exact .inl ⟨some moment, _, (utter_nil { n with lastBanterRoll := some moment } _ _).symm⟩

/-- The cues of an ending. -/
def finishCues (n : Narrator) (winner : Option FighterState) (timedOut : Bool) : List Cue :=
  match winner with
  | some w => Cue.victory [(.winner, n.nameOf w.id), (.hp, wholeText (roundAway w.hp))]
  | none => [.draw timedOut]

theorem finish_eq {n : Narrator} (going : n.finished = false) (moment : Float32)
    (winner : Option FighterState) (timedOut : Bool) :
    ∃ stream said, Answered moment (n.finishCues winner timedOut) said ∧
      n.finish moment winner timedOut = { n with finished := true }.utter moment stream said := by
  unfold finish finishCues
  rw [going, if_neg (by decide)]
  cases winner with
  | some w => exact say_say_eq { n with finished := true } moment _ _
  | none =>
      obtain ⟨stream, l, answer, eq⟩ :=
        say_eq { n with finished := true } moment (.draw timedOut)
      exact ⟨stream, [l], .cons answer .nil, eq⟩

/-! ## Calls without effect -/

theorem start_of_started {n : Narrator} (started : n.started = true) (r : Roster) :
    n.start r = n := by
  unfold start
  rw [if_pos started]

theorem observe_of_finished {n : Narrator} (finished : n.finished = true) (moment : Float32)
    (events : List DamageEvent) (states : List FighterState) :
    n.observe moment events states = n := by
  unfold observe
  rw [if_pos finished]

theorem finish_of_finished {n : Narrator} (finished : n.finished = true) (moment : Float32)
    (winner : Option FighterState) (timedOut : Bool) : n.finish moment winner timedOut = n := by
  unfold finish
  rw [if_pos finished]

end Narrator

end RobotCombat
