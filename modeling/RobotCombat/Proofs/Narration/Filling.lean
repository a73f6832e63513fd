/-
# RobotCombat.Proofs.Narration.Filling — names in the lines of a run

Every line but banter answers a cue, and its message is a template of the cue with its slots
filled (`Line.Fills`). A name is put in as it stands, unless it has the key of a slot in it
whose turn comes later: then that is replaced as well.

* `Adds`: what an operation says, replies included, answers cues; `hear_adds` is a whole tick;
* `verbatim_opening_iff`, `verbatim_hit_iff`, `verbatim_victory_iff`: the names that every
  line of an occasion keeps;
* `lines_fill_templates`: all lines of a run;
* `braced_name_refilled`: a name that is not kept.
-/
import RobotCombat.Proofs.Fighter.Entered
import RobotCombat.Proofs.Narration.Hearing
import RobotCombat.Proofs.Narration.Templates

namespace RobotCombat

set_option autoImplicit false

open Narration (Template Slot Verbatim filled valueIn Suits)
open Number

/-! ## Lines from templates -/

/-- A line is a template of a cue with its slots filled one after the other. Every slot of it
has a value, and all are filled at once if no value has the key of a later slot in it. -/
def Line.Fills (l : Line) (cue : Cue) : Prop :=
  ∃ t ∈ cue.pool, (∀ s ∈ t.slots, s ∈ cue.values.map (·.1)) ∧
    l.message = String.ofList (t.render (filled cue.values)) ∧
    (Verbatim cue.values → l.message = String.ofList (t.render (valueIn cue.values)))

/-- A cue whose templates have words between their slots, and values for all of them. -/
def Cue.Suited (cue : Cue) : Prop := Suits cue.pool (cue.values.map (·.1)) = true

theorem Line.Answers.fills {l : Line} {moment : Float32} {cue : Cue}
    (answers : l.Answers moment cue) (suited : cue.Suited) : l.Fills cue := by
  obtain ⟨t, listed, message⟩ := answers.message
  obtain ⟨spaced, valued⟩ := Narration.suits_iff.mp suited t listed
  rw [Narration.fill_text spaced] at message
  exact ⟨t, listed, valued, message, fun verbatim => by
    rw [message, Narration.filled_of_verbatim verbatim]⟩

namespace Narrator

variable {n : Narrator}

/-- Everything there may be to say about a hit. -/
def hitCues (n : Narrator) (e : DamageEvent) : List Cue :=
  match e.cause with
  | .pit => Cue.pitFall (n.hitValues e)
  | .wall => [.wallSlam (n.hitValues e), .wallSlamReply (n.hitValues e)]
  | _ => [.bigHit e.damage (n.hitValues e), .bigHitReply e.damage (n.hitValues e)]

theorem suited_opening (r : Roster) : ∀ cue ∈ Cue.opening (openingValues r), cue.Suited := by
  obtain ⟨⟨first, reply⟩, -⟩ := Narration.pools_suit
  unfold Cue.opening
  rw [List.forall_mem_cons, List.forall_mem_singleton]
  exact ⟨first, reply⟩

theorem suited_hit (n : Narrator) (e : DamageEvent) : ∀ cue ∈ n.hitCues e, cue.Suited := by
  obtain ⟨-, pools, -⟩ := Narration.pools_suit
  unfold hitCues
  split
  · unfold Cue.pitFall
    rw [List.forall_mem_cons, List.forall_mem_singleton]
    exact ⟨pools _ (by simp), pools _ (by simp)⟩
  · rw [List.forall_mem_cons, List.forall_mem_singleton]
    exact ⟨pools _ (by simp [Cue.wallSlam]), pools _ (by simp [Cue.wallSlamReply])⟩
  · rw [List.forall_mem_cons, List.forall_mem_singleton]
    exact ⟨pools _ (by simp [Cue.bigHit]), pools _ (by simp [Cue.bigHitReply])⟩

theorem suited_lowHp (name : String) : ∀ cue ∈ Cue.lowHp name, cue.Suited := by
  obtain ⟨-, -, ⟨line, reply⟩, -⟩ := Narration.pools_suit
  unfold Cue.lowHp
  rw [List.forall_mem_cons, List.forall_mem_singleton]
  exact ⟨line, reply⟩

theorem suited_finish (n : Narrator) (winner : Option FighterState) (timedOut : Bool) :
    ∀ cue ∈ n.finishCues winner timedOut, cue.Suited := by
  obtain ⟨-, -, -, ⟨win, reply⟩, timeUp, knockout⟩ := Narration.pools_suit
  unfold finishCues
  cases winner with
  | some w =>
      unfold Cue.victory
      rw [List.forall_mem_cons, List.forall_mem_singleton]
      exact ⟨win, reply⟩
  | none =>
      rw [List.forall_mem_singleton]
      cases timedOut
      · exact knockout
      · exact timeUp

/-! ## What is said answers cues -/

theorem exists_cue_of_answered {moment : Float32} {cues : List Cue} {said : List Line}
    (answered : Answered moment cues said) :
    ∀ l ∈ said, ∃ cue ∈ cues, l.Answers moment cue := by
  induction answered with
  | nil => nofun
  | cons answer _ ih =>
      rw [List.forall_mem_cons]
      exact ⟨⟨_, List.mem_cons_self, answer⟩, fun l member =>
        (ih l member).imp fun _ found => ⟨List.mem_cons_of_mem _ found.1, found.2⟩⟩

/-- From one narrator to another that knows the same names: each line that is added answers one
of some cues. -/
def Adds (moment : Float32) (cues : List Cue) (n n' : Narrator) : Prop :=
  n'.names = n.names ∧ ∃ said, n'.lines.toList = n.lines.toList ++ said ∧
    ∀ l ∈ said, ∃ cue ∈ cues, l.Answers moment cue

theorem Adds.nothing (moment : Float32) (cues : List Cue) (n : Narrator) :
    Adds moment cues n n := ⟨rfl, [], (List.append_nil _).symm, nofun⟩

theorem Adds.trans {moment : Float32} {cues cues' : List Cue} {n' n'' : Narrator}
    (first : Adds moment cues n n') (second : Adds moment cues' n' n'') :
    Adds moment (cues ++ cues') n n'' := by
  obtain ⟨names, said, lines, answers⟩ := first
  obtain ⟨names', said', lines', answers'⟩ := second
  refine ⟨names'.trans names, said ++ said', ?_, ?_⟩
  · rw [lines', lines, List.append_assoc]
  · rw [List.forall_mem_append]
    exact ⟨fun l member => (answers l member).imp fun _ found =>
        ⟨List.mem_append_left _ found.1, found.2⟩,
      fun l member => (answers' l member).imp fun _ found =>
        ⟨List.mem_append_right _ found.1, found.2⟩⟩

theorem Adds.ofAnswered {moment : Float32} {cues : List Cue} {called : Narrator}
    {stream : Random.Stream} {said : List Line} (names : called.names = n.names)
    (lines : called.lines = n.lines) (answered : Answered moment cues said) :
    Adds moment cues n (called.utter moment stream said) :=
  ⟨names, said, by rw [toList_utter, lines], exists_cue_of_answered answered⟩

/-- A line and perhaps its reply. -/
theorem Adds.ofReply {moment : Float32} {cue reply : Cue} {called : Narrator}
    {stream : Random.Stream} {l : Line} {replies : List Line} (names : called.names = n.names)
    (lines : called.lines = n.lines) (answer : l.Answers moment cue)
    (replied : MayReply moment reply replies) :
    Adds moment [cue, reply] n (called.utter moment stream (l :: replies)) := by
  refine ⟨names, l :: replies, by rw [toList_utter, lines], ?_⟩
  rw [List.forall_mem_cons]
  refine ⟨⟨cue, List.mem_cons_self, answer⟩, ?_⟩
  obtain rfl | ⟨l', answer', rfl⟩ := replied
  · nofun
  · rw [List.forall_mem_singleton]
    exact ⟨reply, by simp, answer'⟩

theorem bigHit_adds (n : Narrator) (moment : Float32) (e : DamageEvent) :
    Adds moment [.bigHit e.damage (n.hitValues e), .bigHitReply e.damage (n.hitValues e)] n
      (n.bigHit moment e) := by
  by_cases opens : Open n.settings.bigHitThreshold n.settings.bigHitWindowMs n.lastBigHit moment e
  · obtain ⟨stream, l, replies, answer, reply, eq⟩ := bigHit_of_open opens
    rw [eq]
    exact .ofReply rfl rfl answer reply
  · rw [bigHit_of_closed opens]
    exact .nothing moment _ n

theorem wallSlam_adds (n : Narrator) (moment : Float32) (e : DamageEvent) :
    Adds moment [.wallSlam (n.hitValues e), .wallSlamReply (n.hitValues e)] n
      (n.wallSlam moment e) := by
  by_cases opens : Open n.settings.wallSlamThreshold n.settings.wallSlamWindowMs n.lastWallSlam
      moment e
  · obtain ⟨stream, l, replies, answer, reply, eq⟩ := wallSlam_of_open opens
    rw [eq]
    exact .ofReply rfl rfl answer reply
  · rw [wallSlam_of_closed opens]
    exact .nothing moment _ n

theorem damage_adds (moment : Float32) (n : Narrator) (e : DamageEvent) :
    Adds moment (n.hitCues e) n (n.damage moment e) := by
  unfold damage hitCues
  cases e.cause with
  | pit =>
      obtain ⟨stream, said, answered, eq⟩ := n.pitFall_eq moment e
      rw [eq]
      exact .ofAnswered rfl rfl answered
  | wall => exact n.wallSlam_adds moment e
  | weapon kind => exact n.bigHit_adds moment e
  | collision => exact n.bigHit_adds moment e
  | spikes => exact n.bigHit_adds moment e

theorem condition_adds (moment : Float32) (n : Narrator) (s : FighterState) :
    Adds moment (Cue.lowHp (n.nameOf s.id)) n (n.condition moment s) := by
  unfold condition
  split
  · obtain ⟨stream, said, answered, eq⟩ :=
      lowHp_eq { n with lowHpCalled := s.id :: n.lowHpCalled } moment s.id
    rw [eq]
    exact .ofAnswered rfl rfl answered
  · exact .nothing moment _ n

/-- One operation after another, where the cues depend on the names alone. -/
theorem foldl_adds {α : Type} {moment : Float32} {operate : Narrator → α → Narrator}
    {cues : Narrator → α → List Cue} (step : ∀ n a, Adds moment (cues n a) n (operate n a))
    (same : ∀ {n n' : Narrator}, n'.names = n.names → cues n' = cues n) :
    ∀ (as : List α) (n : Narrator), Adds moment (as.flatMap (cues n)) n (as.foldl operate n)
  | [], n => .nothing moment _ n
  | a :: as, n => by
      have rest := foldl_adds step same as (operate n a)
      rw [same (step n a).1] at rest
      exact (step n a).trans rest

theorem hitCues_congr {n' : Narrator} (names : n'.names = n.names) : n'.hitCues = n.hitCues := by
  funext e
  unfold hitCues
  rw [hitValues_congr names]

/-- Everything there may be to say about a tick but banter. -/
def tickCues (n : Narrator) (o : Observation) : List Cue :=
  o.events.flatMap n.hitCues ++ o.states.flatMap fun s => Cue.lowHp (n.nameOf s.id)

/-- A narrator once it has reacted to the events and the states of a tick. -/
def reacted (n : Narrator) (o : Observation) : Narrator :=
  o.states.foldl (condition o.moment) (o.events.foldl (damage o.moment) n)

theorem reacted_adds (n : Narrator) (o : Observation) :
    Adds o.moment (n.tickCues o) n (n.reacted o) := by
  have hits := foldl_adds (damage_adds o.moment) hitCues_congr o.events n
  have named {n n' : Narrator} (names : n'.names = n.names) :
      (fun s : FighterState => Cue.lowHp (n'.nameOf s.id)) =
        fun s => Cue.lowHp (n.nameOf s.id) := by
    rw [nameOf_congr names]
  have conditions := foldl_adds (condition_adds o.moment) named o.states
    (o.events.foldl (damage o.moment) n)
  rw [nameOf_congr hits.1] at conditions
  exact hits.trans conditions

theorem hear_of_going (going : n.finished = false) (o : Observation) :
    n.hear o =
      if (n.reacted o).lines.size = n.lines.size then (n.reacted o).maybeBanter o.moment
      else n.reacted o := by
  unfold hear observe
  rw [if_neg (ne_true_of_eq_false going)]
  rfl

/-- The lines of a call are banter or answer cues about the tick. -/
theorem hear_adds (going : n.finished = false) (o : Observation) :
    ∀ l ∈ n.saidAt o, l.occasion = .banter ∨ ∃ cue ∈ n.tickCues o, l.Answers o.moment cue := by
  obtain ⟨-, said, lines, answers⟩ := n.reacted_adds o
  have new : (n.reacted o).lines.toList.drop n.lines.size = said := by
    rw [lines, ← Array.length_toList, List.drop_left]
  unfold saidAt
  rw [hear_of_going going]
  split
  · rename_i unchanged
    have inside : n.lines.size ≤ (n.reacted o).lines.toList.length := by
      rw [Array.length_toList]
      exact Nat.le_of_eq unchanged.symm
    obtain ⟨_, _, eq⟩ | ⟨-, remark, -, _, eq⟩ := (n.reacted o).maybeBanter_cases o.moment
    · rw [eq, toList_utter, List.append_nil]
      exact fun l member => .inr (answers l (new ▸ member))
    · rw [eq, toList_utter, List.drop_append_of_le_length inside]
      intro l member
      rcases List.mem_append.mp member with reaction | banter
      · exact .inr (answers l (new ▸ reaction))
      · rw [List.mem_singleton.mp banter]
        exact .inl rfl
  · exact fun l member => .inr (answers l (new ▸ member))

/-! ## Names that are kept -/

/-- A number in whole units has no brace in it. -/
theorem wholeText_plain (x : Float32) : '\x7b' ∉ (wholeText x).toList := by
  unfold wholeText
  split
  · rename_i negative mantissa exponent _
    intro brace
    rw [String.toList_append, Nat.toString_eq_repr, Nat.repr_eq_ofList_toDigits,
      String.toList_ofList] at brace
    rcases List.mem_append.mp brace with sign | digit
    · revert sign
      cases negative <;> decide
    · exact absurd (Nat.isDigit_of_mem_toDigits (by decide) (by decide) digit) (by decide)
  · rename_i negative _
    cases negative <;> decide
  · decide

theorem absent_of_plain {text : List Char} (plain : '\x7b' ∉ text) (s : Slot) :
    ¬ s.key <:+: text :=
  fun found => plain (found.subset (Slot.open_mem_of_front (List.append_nil _).symm s.key_ne_nil))

/-- The opening keeps all names if the first one does not have the key of the second. -/
theorem verbatim_opening_iff (r : Roster) : Verbatim (openingValues r) ↔
    ∀ e, r.get? 0 = some e → ¬ Slot.b.key <:+: e.build.displayName.toList := by
  have values : Verbatim (openingValues r) ↔ ¬ Slot.b.key <:+:
      (((r.entrants.map fun e => e.build.displayName)[0]?.getD "").toList) := by
    simp [Verbatim, openingValues]
  rw [values, List.getElem?_map]
  unfold Roster.get?
  cases r.entrants[0]? with
  | none =>
      have absent : ¬ Slot.b.key <:+: "".toList := by decide
      simpa using absent
  | some e => simp

/-- A line about a hit keeps both names if neither has the key of a slot that comes later. -/
theorem verbatim_hit_iff (n : Narrator) (e : DamageEvent) : Verbatim (n.hitValues e) ↔
    (∀ id, e.attacker = some id →
      ∀ s ∈ [Slot.target, .damage, .weapon], ¬ s.key <:+: (n.nameOf id).toList) ∧
    ∀ s ∈ [Slot.damage, .weapon], ¬ s.key <:+: (n.nameOf e.target).toList := by
  have damage : ¬ Slot.weapon.key <:+: (wholeText e.damage).toList :=
    absent_of_plain (wholeText_plain _) _
  have arena : ∀ s : Slot, ¬ s.key <:+: "the arena".toList := absent_of_plain (by decide)
  unfold Verbatim hitValues
  cases e.attacker with
  | none =>
      simpa [List.pairwise_cons, damage] using
        fun _ _ => ⟨arena .target, arena .damage, arena .weapon⟩
  | some id => simp [List.pairwise_cons, damage, and_assoc]

/-- A line about a victory keeps the name of the winner if that does not have the key of the
hit points. -/
theorem verbatim_victory_iff (name hp : String) :
    Verbatim [(.winner, name), (.hp, hp)] ↔ ¬ Slot.hp.key <:+: name.toList := by
  simp [Verbatim]

/-- A line about a fighter in trouble keeps its name. -/
theorem verbatim_lowHp (name : String) : Verbatim [(.target, name)] := by
  simp [Verbatim]

/-! ## A run -/

theorem names_start (settings : NarrationSettings) (seed : UInt64) (r : Roster) :
    ((ofSeed settings seed).start r).names =
      r.entrants.map fun e => (e.id, e.build.displayName) := by
  obtain ⟨stream, said, -, eq⟩ := start_eq (n := ofSeed settings seed) rfl r
  rw [eq]
  rfl

theorem opening_fills (settings : NarrationSettings) (seed : UInt64) (r : Roster) :
    ∀ l ∈ ((ofSeed settings seed).start r).lines.toList,
      ∃ cue ∈ Cue.opening (openingValues r), l.Answers 0 cue ∧ l.Fills cue := by
  obtain ⟨stream, said, answered, eq⟩ := start_eq (n := ofSeed settings seed) rfl r
  rw [eq]
  have lines : (((ofSeed settings seed).introduced r).utter 0 stream said).lines.toList = said :=
    toList_utter _ _ _ _
  rw [lines]
  intro l member
  obtain ⟨cue, listed, answer⟩ := exists_cue_of_answered answered l member
  exact ⟨cue, listed, answer, answer.fills (suited_opening r cue listed)⟩

theorem tick_fills (going : n.finished = false) (o : Observation) :
    ∀ l ∈ n.saidAt o, l.occasion = .banter ∨
      (∃ e ∈ o.events, ∃ cue ∈ n.hitCues e, l.Answers o.moment cue ∧ l.Fills cue) ∨
      ∃ s ∈ o.states, ∃ cue ∈ Cue.lowHp (n.nameOf s.id),
        l.Answers o.moment cue ∧ l.Fills cue := by
  intro l member
  rcases hear_adds going o l member with banter | ⟨cue, listed, answer⟩
  · exact .inl banter
  · rcases List.mem_append.mp listed with hit | trouble
    · obtain ⟨e, among, asked⟩ := List.mem_flatMap.mp hit
      exact .inr (.inl ⟨e, among, cue, asked, answer, answer.fills (n.suited_hit e cue asked)⟩)
    · obtain ⟨s, among, asked⟩ := List.mem_flatMap.mp trouble
      exact .inr (.inr ⟨s, among, cue, asked, answer, answer.fills (suited_lowHp _ cue asked)⟩)

theorem ending_fills (going : n.finished = false) (moment : Float32)
    (winner : Option FighterState) (timedOut : Bool) :
    ∀ l ∈ (n.finish moment winner timedOut).lines.toList.drop n.lines.size,
      ∃ cue ∈ n.finishCues winner timedOut, l.Answers moment cue ∧ l.Fills cue := by
  obtain ⟨stream, said, answered, eq⟩ := finish_eq going moment winner timedOut
  have new : (({ n with finished := true }.utter moment stream said).lines.toList.drop
      n.lines.size) = said := by
    rw [toList_utter, ← Array.length_toList]
    exact List.drop_left
  rw [eq, new]
  intro l member
  obtain ⟨cue, listed, answer⟩ := exists_cue_of_answered answered l member
  exact ⟨cue, listed, answer, answer.fills (n.suited_finish winner timedOut cue listed)⟩

/-- Every line of a run but banter is a template with its slots filled in turn: an opening line
with the names of the first two fighters, a line of a tick with what is known of one of its hits
or with the name of a fighter in trouble, a line at the end with the winner and its hit points.
A fighter goes by its display name. The slots are filled all at once, and each name stands as it
is, unless a name has the key of a slot in it that comes later in these lists; a line about a
fighter in trouble always keeps the name. -/
theorem lines_fill_templates (settings : NarrationSettings) (seed : UInt64) (r : Roster)
    (os : List Observation) (o : Observation) (moment : Float32) (winner : Option FighterState)
    (timedOut : Bool) :
    let first := (ofSeed settings seed).start r
    let n := first.hearAll os
    let ended := n.finish moment winner timedOut
    n.names = r.entrants.map (fun e => (e.id, e.build.displayName)) ∧
    (∀ l ∈ first.lines.toList, ∃ cue ∈ Cue.opening (openingValues r),
      l.Answers 0 cue ∧ l.Fills cue) ∧
    (∀ l ∈ n.saidAt o, l.occasion = .banter ∨
      (∃ e ∈ o.events, ∃ cue ∈ n.hitCues e, l.Answers o.moment cue ∧ l.Fills cue) ∨
      ∃ s ∈ o.states, ∃ cue ∈ Cue.lowHp (n.nameOf s.id), l.Answers o.moment cue ∧ l.Fills cue) ∧
    (∀ l ∈ ended.lines.toList.drop n.lines.size, ∃ cue ∈ n.finishCues winner timedOut,
      l.Answers moment cue ∧ l.Fills cue) ∧
    (Verbatim (openingValues r) ↔
      ∀ e, r.get? 0 = some e → ¬ Slot.b.key <:+: e.build.displayName.toList) ∧
    (∀ e, Verbatim (n.hitValues e) ↔
      (∀ id, e.attacker = some id →
        ∀ s ∈ [Slot.target, .damage, .weapon], ¬ s.key <:+: (n.nameOf id).toList) ∧
      ∀ s ∈ [Slot.damage, .weapon], ¬ s.key <:+: (n.nameOf e.target).toList) ∧
    (∀ name hp, Verbatim [(.winner, name), (.hp, hp)] ↔ ¬ Slot.hp.key <:+: name.toList) ∧
    ∀ name, Verbatim [(.target, name)] := by
  intro first n ended
  have opened := start_opened settings seed r
  obtain ⟨going, -, -, names⟩ := hearAll_keeps os opened.going
  have known := names.trans (names_start settings seed r)
  have tick := tick_fills going o
  have ending := ending_fills going moment winner timedOut
  refine ⟨known, ?_, tick, ending, verbatim_opening_iff r, n.verbatim_hit_iff,
    verbatim_victory_iff, verbatim_lowHp⟩
  dsimp only [first]
  exact opening_fills settings seed r

/-- The names of the stock fighters are kept in the opening. -/
theorem duel_opens_verbatim :
    openingValues Roster.duel = [(.a, "sawyer"), (.b, "smith")] ∧
      ∀ l ∈ ((ofSeed .broadcast 7).start Roster.duel).lines.toList,
        ∃ cue ∈ Cue.opening (openingValues Roster.duel), ∃ t ∈ cue.pool,
          l.message = String.ofList (t.render (valueIn cue.values)) := by
  obtain ⟨-, opening, -, -, verbatim, -⟩ :=
    lines_fill_templates .broadcast 7 Roster.duel [] ⟨100, [], []⟩ 200 none false
  have kept : Verbatim (openingValues Roster.duel) := by
    rw [verbatim]
    rintro e ⟨⟩
    decide
  have values : ∀ cue ∈ Cue.opening (openingValues Roster.duel),
      cue.values = openingValues Roster.duel := by
    unfold Cue.opening
    rw [List.forall_mem_cons, List.forall_mem_singleton]
    exact ⟨rfl, rfl⟩
  refine ⟨by decide +kernel, fun l member => ?_⟩
  obtain ⟨cue, listed, -, t, chosen, -, -, asItStands⟩ := opening l member
  exact ⟨cue, listed, t, chosen, asItStands (values cue listed ▸ kept)⟩

/-- A fighter whose name is the key of a slot, and one with a common name. -/
def bracedPair : Roster :=
  ⟨[.of { Roster.sawyer with name := "\x7bb\x7d" } ⟨200, 300⟩ .stock,
    .of { Roster.smith with name := "Blue" } ⟨600, 300⟩ .stock]⟩

theorem bracedPair_values :
    openingValues bracedPair = [(.a, "\x7bb\x7d"), (.b, "Blue")] := by
  decide +kernel

/-- The first fighter's name is taken for the slot of the second one: the opening is no template
with both names in it as they are. -/
theorem braced_name_refilled :
    ∃ l ∈ ((ofSeed .broadcast 0).start bracedPair).lines.toList,
      l.occasion = .start ∧ l.speaker = .chuck ∧
        ∀ t ∈ Narration.Pool.startOpening,
          l.message ≠ String.ofList (t.render (valueIn (openingValues bracedPair))) := by
  obtain ⟨stream, said, answered, eq⟩ := start_eq (n := ofSeed .broadcast 0) rfl bracedPair
  obtain - | @⟨_, l, _, _, answer, _⟩ := answered
  have refilled : ∀ chosen ∈ Narration.Pool.startOpening, ∀ t ∈ Narration.Pool.startOpening,
      Narration.fill [(.a, "\x7bb\x7d"), (.b, "Blue")] chosen.text ≠
        t.render (valueIn [(.a, "\x7bb\x7d"), (.b, "Blue")]) := by
    decide +kernel
  obtain ⟨chosen, listed, message⟩ := answer.message
  refine ⟨l, ?_, answer.occasion, answer.speaker, fun t among same => ?_⟩
  · rw [eq, toList_utter]
    exact List.mem_append_right _ List.mem_cons_self
  · rw [bracedPair_values] at message same
    exact refilled chosen listed t among (String.ofList_injective (message.symm.trans same))

end Narrator

end RobotCombat
