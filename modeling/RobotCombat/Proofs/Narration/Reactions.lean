/-
# RobotCombat.Proofs.Narration.Reactions — what a narrator makes of a tick

Chance decides about words, replies and banter. All else is decided by what has been called
before: the last big hit, the last wall slam and the fighters in trouble, the `Calls`. An
event and a state each give cues and leave other calls (`atDamage`, `atState`), and so does a
list of them (`reactAll`), without a stream. `Told` relates such cues to what is said: the
lines without the replies to hits answer them one by one.

`Reacts` says of an operation that it follows a reaction, and `foldl_reacts` carries this through
a list; `observe_continues` is the result for a whole tick, with the conditions of banter.
-/
import RobotCombat.Proofs.Narration.Utterances

namespace RobotCombat

set_option autoImplicit false

open Number
open RobotCombat.Random (Stream)

/-! ## Lines that are certain -/

/-- Whether chance decides about a line on a hit. -/
def Occasion.isReply : Occasion → Speaker → Bool
  | .bigHit, .frank | .wallSlam, .frank => true
  | _, _ => false

/-- Lines about a moment of which all but the replies to hits answer cues. -/
structure Told (moment : Float32) (cues : List Cue) (said : List Line) : Prop where
  certain : Answered moment cues (said.filter fun l => !l.occasion.isReply l.speaker)
  stamped : ∀ l ∈ said, l.timestamp = Narrator.wholeMs (l.due moment)

namespace Told

variable {moment : Float32} {cues cues' : List Cue} {said said' : List Line}

theorem nil : Told moment [] [] := ⟨.nil, nofun⟩

theorem append (first : Told moment cues said) (second : Told moment cues' said') :
    Told moment (cues ++ cues') (said ++ said') where
  certain := by
    rw [List.filter_append]
    exact List.rel_append first.certain second.certain
  stamped l member := (List.mem_append.mp member).elim (first.stamped l) (second.stamped l)

/-- A line that answers a cue other than a reply. -/
theorem one {cue : Cue} {l : Line} (answer : l.Answers moment cue)
    (certain : cue.occasion.isReply cue.speaker = false) : Told moment [cue] [l] := by
  have kept : l.occasion.isReply l.speaker = false := by
    rw [answer.occasion, answer.speaker]
    exact certain
  exact ⟨by simpa [kept] using answer, by simpa using answer.timestamp⟩

/-- Lines that answer cues other than replies. -/
theorem ofAnswered (answers : Answered moment cues said)
    (certain : ∀ cue ∈ cues, cue.occasion.isReply cue.speaker = false) : Told moment cues said := by
  induction answers with
  | nil => exact nil
  | cons answer answers ih =>
      rw [List.forall_mem_cons] at certain
      exact (one answer certain.1).append (ih certain.2)

/-- A reply answers no cue. -/
theorem ofReply {cue : Cue} (reply : Narrator.MayReply moment cue said)
    (chance : cue.occasion.isReply cue.speaker = true) : Told moment [] said := by
  obtain rfl | ⟨l, answer, rfl⟩ := reply
  · exact nil
  · have dropped : l.occasion.isReply l.speaker = true := by
      rw [answer.occasion, answer.speaker]
      exact chance
    exact ⟨by simp [dropped], by simpa using answer.timestamp⟩

/-- The lines of some occasions answer the cues of these occasions. -/
theorem filter (told : Told moment cues said) (p : Occasion → Speaker → Bool)
    (certain : ∀ o s, p o s = true → o.isReply s = false) :
    Answered moment (cues.filter fun cue => p cue.occasion cue.speaker)
      (said.filter fun l => p l.occasion l.speaker) := by
  have kept : (said.filter fun l => p l.occasion l.speaker) =
      (said.filter fun l => !l.occasion.isReply l.speaker).filter
        fun l => p l.occasion l.speaker := by
    rw [List.filter_filter]
    apply List.filter_congr
    intro l _
    cases heard : p l.occasion l.speaker with
    | false => rfl
    | true => rw [certain _ _ heard]; rfl
  rw [kept]
  refine List.rel_filter (fun cue l answer => ?_) told.certain
  show _ = true ↔ _ = true
  rw [answer.occasion, answer.speaker]

end Told

/-! ## Calls -/

/-- What has been called: the times of the last big hit and wall slam, and the fighters in
trouble. -/
structure Calls where
  bigHit : Option Float32
  wallSlam : Option Float32
  inTrouble : List String

/-- A living fighter below a quarter of its hit points. -/
def FighterState.isInTrouble (s : FighterState) : Bool :=
  s.isAlive && s.hpFraction < lowHpFraction

theorem FighterState.isInTrouble_iff (s : FighterState) :
    s.isInTrouble = true ↔ s.isAlive = true ∧ s.hpFraction < lowHpFraction := by
  unfold isInTrouble
  rw [Bool.and_eq_true, decide_eq_true_iff]

namespace Narrator

instance (threshold window : Float32) (last : Option Float32) (moment : Float32)
    (e : DamageEvent) : Decidable (Open threshold window last moment e) :=
  inferInstanceAs (Decidable (_ ∧ _))

def calls (n : Narrator) : Calls := ⟨n.lastBigHit, n.lastWallSlam, n.lowHpCalled⟩

/-- A narrator that has called other things. -/
def having (n : Narrator) (calls : Calls) : Narrator :=
  { n with
    lastBigHit := calls.bigHit
    lastWallSlam := calls.wallSlam
    lowHpCalled := calls.inTrouble }

/-- What a hit that was neither wall nor pit asks for, and the calls after it. -/
def atBigHit (n : Narrator) (moment : Float32) (calls : Calls) (e : DamageEvent) :
    List Cue × Calls :=
  if Open n.settings.bigHitThreshold n.settings.bigHitWindowMs calls.bigHit moment e then
    ([.bigHit e.damage (n.hitValues e)], { calls with bigHit := some moment })
  else ([], calls)

/-- What a wall's damage asks for, and the calls after it. -/
def atWallSlam (n : Narrator) (moment : Float32) (calls : Calls) (e : DamageEvent) :
    List Cue × Calls :=
  if Open n.settings.wallSlamThreshold n.settings.wallSlamWindowMs calls.wallSlam moment e then
    ([.wallSlam (n.hitValues e)], { calls with wallSlam := some moment })
  else ([], calls)

/-- What an application of damage asks for, and the calls after it. -/
def atDamage (n : Narrator) (moment : Float32) (calls : Calls) (e : DamageEvent) :
    List Cue × Calls :=
  match e.cause with
  | .pit => (Cue.pitFall (n.hitValues e), calls)
  | .wall => n.atWallSlam moment calls e
  | _ => n.atBigHit moment calls e

/-- What a state asks for, and the calls after it. -/
def atState (n : Narrator) (calls : Calls) (s : FighterState) : List Cue × Calls :=
  if s.isInTrouble && !calls.inTrouble.contains s.id then
    (Cue.lowHp (n.nameOf s.id), { calls with inTrouble := s.id :: calls.inTrouble })
  else ([], calls)

/-- Reactions one after another. -/
def reactAll {α : Type} (react : Calls → α → List Cue × Calls) :
    Calls → List α → List Cue × Calls
  | calls, [] => ([], calls)
  | calls, a :: as =>
    ((react calls a).1 ++ (reactAll react (react calls a).2 as).1,
      (reactAll react (react calls a).2 as).2)

/-- What a tick asks for, and the calls after it. -/
def atTick (n : Narrator) (moment : Float32) (calls : Calls) (events : List DamageEvent)
    (states : List FighterState) : List Cue × Calls :=
  let hits := reactAll (n.atDamage moment) calls events
  let conditions := reactAll n.atState hits.2 states
  (hits.1 ++ conditions.1, conditions.2)

/-! ### What all reactions have in common -/

theorem reactAll_cues {α : Type} {react : Calls → α → List Cue × Calls} {P : Cue → Prop}
    (each : ∀ calls a, ∀ cue ∈ (react calls a).1, P cue) :
    ∀ (as : List α) (calls : Calls), ∀ cue ∈ (reactAll react calls as).1, P cue
  | [], _ => nofun
  | a :: as, calls => by
      unfold reactAll
      rw [List.forall_mem_append]
      exact ⟨each calls a, reactAll_cues each as _⟩

theorem reactAll_keeps {α β : Type} {react : Calls → α → List Cue × Calls} (reading : Calls → β)
    (each : ∀ calls a, reading (react calls a).2 = reading calls) :
    ∀ (as : List α) (calls : Calls), reading (reactAll react calls as).2 = reading calls
  | [], _ => rfl
  | a :: as, calls => (reactAll_keeps reading each as _).trans (each calls a)

theorem atDamage_occasion (n : Narrator) (moment : Float32) (calls : Calls) (e : DamageEvent) :
    ∀ cue ∈ (n.atDamage moment calls e).1, cue.occasion ∈ [.pitFall, .wallSlam, .bigHit] := by
  unfold atDamage atWallSlam atBigHit
  split
  · simp [Cue.pitFall]
  · split <;> simp [Cue.wallSlam]
  · split <;> simp [Cue.bigHit]

theorem atState_occasion (n : Narrator) (calls : Calls) (s : FighterState) :
    ∀ cue ∈ (n.atState calls s).1, cue.occasion = .lowHp := by
  unfold atState
  split <;> simp [Cue.lowHp]

/-- Cues about the opening, the end and banter do not come of a tick. -/
theorem atTick_occasion (n : Narrator) (moment : Float32) (calls : Calls)
    (events : List DamageEvent) (states : List FighterState) :
    ∀ cue ∈ (n.atTick moment calls events states).1,
      cue.occasion ∈ [.pitFall, .wallSlam, .bigHit, .lowHp] := by
  unfold atTick
  rw [List.forall_mem_append]
  constructor
  · intro cue member
    exact List.mem_append_left [.lowHp] (reactAll_cues (n.atDamage_occasion moment) _ _ cue member)
  · intro cue member
    rw [reactAll_cues n.atState_occasion _ _ cue member]
    decide

/-! ## Operations follow their reactions -/

/-- From one narrator to another: what a reaction asks for is said, and its calls are made. -/
def Reacts (moment : Float32) (n : Narrator) (reaction : List Cue × Calls) (n' : Narrator) : Prop :=
  ∃ stream said, Told moment reaction.1 said ∧
    n' = (n.having reaction.2).utter moment stream said

theorem Reacts.nothing (moment : Float32) (n : Narrator) : Reacts moment n ([], n.calls) n :=
  ⟨n.stream, [], .nil, (utter_nil _ _ _).symm⟩

theorem Reacts.trans {moment : Float32} {n n' n'' : Narrator} {cues cues' : List Cue}
    {calls calls' : Calls} (first : Reacts moment n (cues, calls) n')
    (second : Reacts moment n' (cues', calls') n'') :
    Reacts moment n (cues ++ cues', calls') n'' := by
  obtain ⟨stream, said, told, rfl⟩ := first
  obtain ⟨stream', said', told', rfl⟩ := second
  exact ⟨stream', said ++ said', told.append told',
    utter_utter (n.having calls') moment stream stream' said said'⟩

theorem wallSlam_reacts (n : Narrator) (moment : Float32) (e : DamageEvent) :
    Reacts moment n (n.atWallSlam moment n.calls e) (n.wallSlam moment e) := by
  unfold atWallSlam
  split
  · obtain ⟨stream, l, replies, answer, reply, eq⟩ := wallSlam_of_open ‹_›
    exact ⟨stream, [l] ++ replies, (Told.one answer rfl).append (.ofReply reply rfl), eq⟩
  · rw [wallSlam_of_closed ‹_›]
    exact .nothing moment n

theorem bigHit_reacts (n : Narrator) (moment : Float32) (e : DamageEvent) :
    Reacts moment n (n.atBigHit moment n.calls e) (n.bigHit moment e) := by
  unfold atBigHit
  split
  · obtain ⟨stream, l, replies, answer, reply, eq⟩ := bigHit_of_open ‹_›
    exact ⟨stream, [l] ++ replies, (Told.one answer rfl).append (.ofReply reply rfl), eq⟩
  · rw [bigHit_of_closed ‹_›]
    exact .nothing moment n

theorem pitFall_reacts (n : Narrator) (moment : Float32) (e : DamageEvent) :
    Reacts moment n (Cue.pitFall (n.hitValues e), n.calls) (n.pitFall moment e) := by
  obtain ⟨stream, said, answers, eq⟩ := n.pitFall_eq moment e
  refine ⟨stream, said, .ofAnswered answers ?_, eq⟩
  simp [Cue.pitFall, Occasion.isReply]

theorem damage_reacts (n : Narrator) (moment : Float32) (e : DamageEvent) :
    Reacts moment n (n.atDamage moment n.calls e) (n.damage moment e) := by
  unfold damage atDamage
  cases e.cause with
  | pit => exact n.pitFall_reacts moment e
  | wall => exact n.wallSlam_reacts moment e
  | weapon kind => exact n.bigHit_reacts moment e
  | collision => exact n.bigHit_reacts moment e
  | spikes => exact n.bigHit_reacts moment e

theorem condition_reacts (n : Narrator) (moment : Float32) (s : FighterState) :
    Reacts moment n (n.atState n.calls s) (n.condition moment s) := by
  have gate : (s.isAlive && s.hpFraction < lowHpFraction && !n.lowHpCalled.contains s.id) =
    (s.isInTrouble && !n.calls.inTrouble.contains s.id) := rfl
  unfold condition atState
  rw [gate]
  split
  · obtain ⟨stream, said, answers, eq⟩ :=
      lowHp_eq { n with lowHpCalled := s.id :: n.lowHpCalled } moment s.id
    refine ⟨stream, said, .ofAnswered answers ?_, eq⟩
    simp [Cue.lowHp, Occasion.isReply]
  · exact .nothing moment n

/-- One operation after another. The reaction may use what a narrator knows, but not what it
has said. -/
theorem foldl_reacts {α : Type} {moment : Float32} {operate : Narrator → α → Narrator}
    {react : Narrator → Calls → α → List Cue × Calls}
    (step : ∀ n a, Reacts moment n (react n n.calls a) (operate n a))
    (same : ∀ (n : Narrator) calls stream said,
      react ((n.having calls).utter moment stream said) = react n) :
    ∀ (as : List α) (n : Narrator), Reacts moment n (reactAll (react n) n.calls as)
      (as.foldl operate n)
  | [], n => .nothing moment n
  | a :: as, n => by
      have rest := foldl_reacts step same as (operate n a)
      obtain ⟨stream, said, -, operated⟩ := step n a
      have known : react (operate n a) = react n := by rw [operated, same]
      have called : (operate n a).calls = (react n n.calls a).2 := by rw [operated]; rfl
      rw [known, called] at rest
      exact (step n a).trans rest

/-! ## A tick -/

/-- What the narrator makes of a tick before it thinks of banter. -/
theorem tick_reacts (n : Narrator) (moment : Float32) (events : List DamageEvent)
    (states : List FighterState) :
    Reacts moment n (n.atTick moment n.calls events states)
      (states.foldl (condition moment) (events.foldl (damage moment) n)) := by
  have hits := foldl_reacts (fun n => n.damage_reacts moment) (fun _ _ _ _ => rfl) events n
  have conditions := foldl_reacts (fun n => n.condition_reacts moment) (fun _ _ _ _ => rfl) states
    (events.foldl (damage moment) n)
  obtain ⟨stream, said, told, operated⟩ := hits
  rw [operated] at conditions ⊢
  exact Reacts.trans ⟨stream, said, told, rfl⟩ conditions

/-- From one narrator to another by lines about a moment that come of a reaction, or else by
one line of banter, where that was due. -/
structure Continues (n : Narrator) (moment : Float32) (reaction : List Cue × Calls)
    (said : List Line) (n' : Narrator) : Prop where
  settings : n'.settings = n.settings
  names : n'.names = n.names
  started : n'.started = n.started
  finished : n'.finished = n.finished
  calls : n'.calls = reaction.2
  lines : n'.lines.toList = n.lines.toList ++ said
  last : n'.lastLineAt = latest moment n.lastLineAt said
  stamped : ∀ l ∈ said, l.timestamp = wholeMs (l.due moment)
  heard : Told moment reaction.1 said ∧ n'.banterCount = n.banterCount ∨
    n.banterDue moment = true ∧ reaction.1 = [] ∧ n'.banterCount = n.banterCount + 1 ∧
      ∃ remark ∈ Narration.Pool.banter, said = [banterLine moment remark]

theorem observe_continues {n : Narrator} (going : n.finished = false) (moment : Float32)
    (events : List DamageEvent) (states : List FighterState) :
    ∃ said, Continues n moment (n.atTick moment n.calls events states) said
      (n.observe moment events states) := by
  obtain ⟨stream, said, told, eq⟩ := n.tick_reacts moment events states
  unfold observe
  rw [if_neg (ne_true_of_eq_false going), eq]
  dsimp only
  split
  · rename_i unchanged
    have silent : said = [] := by
      have counted := congrArg List.length
        (toList_utter (n.having (n.atTick moment n.calls events states).2) moment stream said)
      rw [Array.length_toList, unchanged, List.length_append] at counted
      exact List.length_eq_zero_iff.mp (Nat.left_eq_add.mp counted)
    subst silent
    have asked : (n.atTick moment n.calls events states).1 = [] :=
      List.forall₂_nil_right_iff.mp told.certain
    obtain ⟨roll, stream', eq'⟩ | ⟨due, remark, listed, stream', eq'⟩ := maybeBanter_cases
      ((n.having (n.atTick moment n.calls events states).2).utter moment stream []) moment
    · rw [eq']
      exact ⟨[], rfl, rfl, rfl, rfl, rfl, toList_utter _ _ _ _, rfl, nofun, .inl ⟨told, rfl⟩⟩
    · rw [eq']
      refine ⟨[banterLine moment remark], rfl, rfl, rfl, rfl, rfl, toList_utter _ _ _ _, rfl, ?_,
        .inr ⟨due, asked, rfl, remark, listed, rfl⟩⟩
      intro l member
      rw [List.mem_singleton.mp member]
      rfl
  · exact ⟨said, rfl, rfl, rfl, rfl, rfl, toList_utter _ _ _ _, rfl, told.stamped,
      .inl ⟨told, rfl⟩⟩

namespace Continues

variable {n n' : Narrator} {moment : Float32} {reaction : List Cue × Calls} {said : List Line}

/-- The lines of some occasions, other than replies and banter, answer the cues of these
occasions. -/
theorem filter (continues : Continues n moment reaction said n') (p : Occasion → Speaker → Bool)
    (certain : ∀ o s, p o s = true → o.isReply s = false) (grave : ∀ s, p .banter s = false) :
    Answered moment (reaction.1.filter fun cue => p cue.occasion cue.speaker)
      (said.filter fun l => p l.occasion l.speaker) := by
  obtain ⟨told, -⟩ | ⟨-, asked, -, remark, -, rfl⟩ := continues.heard
  · exact told.filter p certain
  · rw [asked, List.filter_singleton, banterLine, grave]
    exact .nil

/-- A line of banter stands alone, and was due. -/
theorem banter_cases (continues : Continues n moment reaction said n')
    (grave : ∀ cue ∈ reaction.1, cue.occasion ≠ .banter) :
    (∀ l ∈ said, l.occasion ≠ .banter) ∧ n'.banterCount = n.banterCount ∨
      n.banterDue moment = true ∧ n'.banterCount = n.banterCount + 1 ∧
        ∃ l, said = [l] ∧ l.occasion = .banter := by
  obtain ⟨told, same⟩ | ⟨due, -, more, remark, -, rfl⟩ := continues.heard
  · have answers := told.filter (fun o _ => o = .banter)
      (by intro o s same; rw [of_decide_eq_true same]; rfl)
    have silent : (reaction.1.filter fun cue => cue.occasion = .banter) = [] := by simpa using grave
    rw [silent] at answers
    exact .inl ⟨by simpa using List.forall₂_nil_left_iff.mp answers, same⟩
  · exact .inr ⟨due, more, _, rfl, rfl⟩

end Continues

end Narrator

end RobotCombat
