/-
# RobotCombat.Proofs.Match.Commentary — the commentary of a match agrees with its record

The narrator of a match hears of every tick what the snapshot after it shows
(`narrator_of_steps`), and is closed by the last one (`run_narrator`). So the tally of its lines
is a tally of the footage: of the damage log, and of the states after every tick.

* `commentary_agrees_with_record`: how many lines of each occasion a record has, what they are
  about, and in which order they stand.
-/
import RobotCombat.Proofs.Match.History
import RobotCombat.Proofs.Narration.Tally

namespace RobotCombat

set_option autoImplicit false

/-- What a narrator is shown of a frame. -/
def Frame.observation (f : Frame) : Observation := ⟨f.timestamp, f.damage, f.fighters⟩

namespace Battle

variable {b : Battle}

/-! ## What the narrator hears -/

theorem tickOnce_narrator (b : Battle) :
    b.tickOnce.narrator = conclude (b.narrator.hear b.tickOnce.snapshot.observation)
      b.scene.timestamp b.settled b.verdict := by
  rw [tickOnce_snapshot, tickOnce_eq]
  dsimp only [Narrator.hear, Frame.observation]

/-- As long as a match goes on its narrator has heard its footage, and nothing else. -/
theorem narrator_of_steps :
    ∀ {k : Nat}, (∀ j, j ≤ k → (steps j b).isFinished = false) →
      (steps k b).narrator = b.narrator.hearAll ((b.footage k).map Frame.observation)
  | 0, _ => rfl
  | k + 1, going => by
      have before := narrator_of_steps fun j earlier => going j (Nat.le_succ_of_le earlier)
      have next := steps_succ_of_going (going k (Nat.le_succ k))
      have open' : (steps k b).verdict = none := by
        have still := going (k + 1) le_rfl
        rw [next, isFinished_eq_false_iff, tickOnce_outcome] at still
        exact still
      rw [footage_succ, List.map_append, Narrator.hearAll, List.foldl_append, next,
        tickOnce_narrator, open', before]
      rfl

/-- The closing lines are about a fighter where the outcome has a winner. -/
theorem winnerState_isSome {c : MatchConfig} {tick : Nat} {states : List FighterState}
    {o : Outcome} (ended : outcomeOf? c tick states = some o) :
    (winnerState states).isSome = o.winner.isSome := by
  unfold winnerState standing
  dsimp only
  obtain ⟨few, rfl⟩ | ⟨more, -, rfl⟩ := outcomeOf?_cases ended
  · rw [if_neg (by simpa [living] using few), Option.isSome_map]
    rfl
  · rw [if_pos (by simpa [living] using more)]
    rfl

/-- The narrator of a whole match has heard its footage, and closes with the fighter that is
left. -/
theorem run_narrator (going : b.isFinished = false) (fresh : b.tick = 0) :
    ∃ n o moment, 1 ≤ n ∧ b.run = steps n b ∧ (∀ k, k < n → (steps k b).isFinished = false) ∧
      b.run.outcome = some o ∧ (winnerState b.run.states).isSome = o.winner.isSome ∧
      b.run.narrator = (b.narrator.hearAll ((b.footage n).map Frame.observation)).finish moment
        (winnerState b.run.states) o.timedOut := by
  obtain ⟨n, o, positive, -, same, -, outcome, judged, before, -⟩ := run_judged going fresh
  obtain ⟨k, rfl⟩ : ∃ k, n = k + 1 := ⟨n - 1, by omega⟩
  have next := steps_succ_of_going (before k (Nat.lt_succ_self k))
  have verdict : (steps k b).verdict = some o := by
    rw [← tickOnce_outcome, ← next, ← same, outcome]
  have winner := winnerState_isSome judged
  refine ⟨k + 1, o, (steps k b).scene.timestamp, positive, same, before, outcome, winner, ?_⟩
  have heard := narrator_of_steps fun j (upTo : j ≤ k) => before j (Nat.lt_succ_of_le upTo)
  rw [footage_succ, List.map_append, Narrator.hearAll, List.foldl_append, same, next,
    tickOnce_narrator, verdict, heard, tickOnce_states]
  rfl

/-- The footage of a whole match shows the fighters after every tick. -/
theorem mem_footage_fighters {n : Nat} (positive : 1 ≤ n) (ended : (steps n b).isFinished = true)
    {s : FighterState} :
    s ∈ (b.footage n).flatMap (·.fighters) ↔ ∃ k, 1 ≤ k ∧ s ∈ (steps k b).states := by
  unfold footage
  rw [List.flatMap_map, List.mem_flatMap]
  simp only [List.mem_range]
  constructor
  · rintro ⟨k, -, shown⟩
    exact ⟨k + 1, Nat.le_add_left 1 k, shown⟩
  · rintro ⟨k, later, there⟩
    rcases Nat.le_total k n with within | beyond
    · obtain ⟨j, rfl⟩ : ∃ j, k = j + 1 := ⟨k - 1, by omega⟩
      exact ⟨j, within, there⟩
    -- after the end nothing changes
    · obtain ⟨j, rfl⟩ := Nat.exists_eq_add_of_le beyond
      obtain ⟨i, rfl⟩ : ∃ i, n = i + 1 := ⟨n - 1, by omega⟩
      rw [steps_add, steps_of_isFinished ended] at there
      exact ⟨i, Nat.lt_succ_self i, there⟩

end Battle

/-! ## Fighters by name -/

namespace Roster

variable {r : Roster}

/-- What a narrator is told of the fighters. -/
def introductions (r : Roster) : List (String × String) :=
  r.entrants.map fun e => (e.id, e.build.displayName)

theorem lookup_introductions (distinct : (r.entrants.map Entrant.id).Nodup) {e : Entrant}
    (member : e ∈ r.entrants) : r.introductions.lookup e.id = some e.build.displayName := by
  unfold introductions
  generalize r.entrants = entrants at distinct member
  induction entrants with
  | nil => cases member
  | cons first rest ih =>
      rw [List.map_cons, List.nodup_cons] at distinct
      rw [List.map_cons, List.lookup_cons]
      rcases List.mem_cons.mp member with rfl | later
      · rw [beq_self_eq_true]
      · have other : e.id ≠ first.id :=
          fun same => distinct.1 (same ▸ List.mem_map_of_mem later)
        rw [beq_false_of_ne other]
        exact ih distinct.2 later

/-- Ids of fighters are theirs in one way. -/
theorem exists_entrants {ids : List String} (known : ∀ id ∈ ids, id ∈ r.entrants.map Entrant.id) :
    ∃ called : List Entrant, called.map Entrant.id = ids ∧ ∀ e ∈ called, e ∈ r.entrants := by
  induction ids with
  | nil => exact ⟨[], rfl, List.forall_mem_nil _⟩
  | cons id ids ih =>
      rw [List.forall_mem_cons] at known
      obtain ⟨e, member, rfl⟩ := List.mem_map.mp known.1
      obtain ⟨called, rfl, entered⟩ := ih known.2
      exact ⟨e :: called, rfl, List.forall_mem_cons.mpr ⟨member, entered⟩⟩

end Roster

namespace Narrator

/-- Names and ids go together, so the cues about fighters in trouble are about fighters. -/
theorem Tally.fighters {n : Narrator} {r : Roster} {damage : List DamageEvent}
    {seen : List FighterState} (tally : n.Tally damage seen) (names : n.names = r.introductions)
    (distinct : (r.entrants.map Entrant.id).Nodup)
    (known : ∀ s ∈ seen, s.id ∈ r.entrants.map Entrant.id) :
    ∃ called : List Entrant, called.Nodup ∧
      (∀ e, e ∈ called ↔ e ∈ r.entrants ∧ ∃ s ∈ seen, s.id = e.id ∧ s.isInTrouble = true) ∧
      AllSaid (called.flatMap fun e => Cue.lowHp e.build.displayName) (n.told .lowHp) := by
  have entered : ∀ id ∈ n.lowHpCalled.reverse, id ∈ r.entrants.map Entrant.id := by
    intro id member
    obtain ⟨s, shown, rfl, -⟩ := (tally.listed id).mp (List.mem_reverse.mp member)
    exact known s shown
  obtain ⟨called, ids, entrants⟩ := Roster.exists_entrants entered
  have once : (called.map Entrant.id).Nodup := by
    rw [ids, List.nodup_reverse]
    exact tally.once
  refine ⟨called, once.of_map, fun e => ?_, ?_⟩
  · have listed : e.id ∈ n.lowHpCalled ↔ e.id ∈ called.map Entrant.id := by
      rw [ids, List.mem_reverse]
    rw [← tally.listed, listed]
    constructor
    · intro member
      exact ⟨entrants e member, List.mem_map_of_mem member⟩
    · rintro ⟨member, among⟩
      obtain ⟨e', member', same⟩ := List.mem_map.mp among
      obtain rfl := List.inj_on_of_nodup_map distinct (entrants e' member') member same
      exact member'
  · have named : (called.flatMap fun e => Cue.lowHp e.build.displayName) =
        n.lowHpCalled.reverse.flatMap fun id => Cue.lowHp (n.nameOf id) := by
      rw [← ids, List.flatMap_map]
      refine List.flatMap_congr fun e member => ?_
      unfold nameOf
      rw [names, Roster.lookup_introductions distinct (entrants e member)]
      rfl
    rw [named]
    exact tally.troubles

end Narrator

namespace Battle

variable {b : Battle}

/-! ## The record -/

/-- A match before its first tick. -/
structure Fresh (r : Roster) (settings : NarrationSettings) (b : Battle) : Prop where
  going : b.isFinished = false
  tick : b.tick = 0
  log : b.damageLog = #[]
  ids : b.states.map (·.id) = r.entrants.map Entrant.id
  opened : b.narrator.Opened settings
  names : b.narrator.names = r.introductions

theorem start_narrator (r : Roster) (a : Arena) (c : MatchConfig) :
    (start r a c).narrator = (Narrator.ofSeed c.narration c.seed).start r := by
  rw [start]

theorem start_fresh (r : Roster) (a : Arena) (c : MatchConfig) :
    (start r a c).Fresh r c.narration where
  going := rfl
  tick := rfl
  log := rfl
  ids := by
    show r.spawnStates.map (·.id) = _
    unfold Roster.spawnStates
    rw [List.map_map]
    rfl
  opened := by
    rw [start_narrator]
    exact Narrator.start_opened c.narration c.seed r
  names := by
    rw [start_narrator]
    obtain ⟨stream, said, -, eq⟩ := Narrator.start_eq (n := .ofSeed c.narration c.seed) rfl r
    rw [eq]
    rfl

/-- How a match ends: with an outcome after a number of ticks, of which the narrator has heard
before it closes. -/
structure Closes (r : Roster) (settings : NarrationSettings) (b : Battle) (n : Nat) (o : Outcome)
    (heard : Narrator) (moment : Float32) : Prop where
  positive : 1 ≤ n
  ended : (steps n b).isFinished = true
  outcome : b.run.outcome = some o
  winner : (winnerState b.run.states).isSome = o.winner.isSome
  tally : heard.Tally b.run.damageLog.toList ((b.footage n).flatMap (·.fighters))
  banter : (heard.told .banter).length ≤ settings.banterCap
  going : heard.finished = false
  started : heard.started = true
  names : heard.names = r.introductions
  narrator : b.run.narrator = heard.finish moment (winnerState b.run.states) o.timedOut

theorem Fresh.closes {r : Roster} {settings : NarrationSettings} (fresh : b.Fresh r settings) :
    ∃ n o heard moment, b.Closes r settings n o heard moment := by
  obtain ⟨n, o, moment, positive, same, before, outcome, winner, closed⟩ :=
    run_narrator fresh.going fresh.tick
  obtain ⟨going, started, -, names⟩ := Narrator.hearAll_keeps
    ((b.footage n).map Frame.observation) fresh.opened.going
  have ended : (steps n b).isFinished = true := by
    unfold isFinished
    rw [← same, outcome]
    rfl
  have log : b.run.damageLog.toList = (b.footage n).flatMap (·.damage) := by
    rw [same, damageLog_of_steps before, fresh.log]
    rfl
  have tally := fresh.opened.tally.hearAll fresh.opened.going
    ((b.footage n).map Frame.observation)
  rw [List.flatMap_map, List.flatMap_map] at tally
  obtain ⟨counted, capped⟩ := fresh.opened.count ((b.footage n).map Frame.observation)
  exact ⟨n, o, _, moment, positive, ended, outcome, winner, log ▸ tally, counted ▸ capped, going,
    started.trans fresh.opened.started, names.trans fresh.names, closed⟩

/-- The commentary of a whole match has the lines of its narrator by time, and those of one time
in the order in which they were said. It has two lines for the opening, two for every fall into
a pit in the damage log, two for the end where there is a winner and one otherwise, two for
every fighter that was alive and below a quarter of its hit points after some tick, and no more
banter than allowed. An opening and an end are not repeated, whatever is called afterwards. -/
theorem commentary_agrees_with_record {r : Roster} (entered : r.Entered) (a : Arena)
    (c : MatchConfig) :
    let first := start r a c
    let last := first.run
    let record := last.result
    let said := last.narrator.lines.toList
    let count := fun o : Occasion => (record.commentary.filter fun l => l.occasion = o).length
    (record.commentary.Perm said ∧
      record.commentary.Pairwise (fun l l' => l.timestamp ≤ l'.timestamp) ∧
      ∀ t, record.commentary.filter (fun l => l.timestamp = t) =
        said.filter fun l => l.timestamp = t) ∧
    count .start = 2 ∧
    (count .pitFall = 2 * (record.damageLog.filter DamageEvent.isFall).length ∧
      AllSaid ((record.damageLog.filter DamageEvent.isFall).flatMap fun e =>
        Cue.pitFall (first.narrator.hitValues e)) (said.filter fun l => l.occasion = .pitFall)) ∧
    count .finish = (if record.winner.isSome then 2 else 1) ∧
    (∃ called : List Entrant, called.Nodup ∧
      (∀ e, e ∈ called ↔ e ∈ r.entrants ∧ ∃ k, 1 ≤ k ∧ ∃ s ∈ (steps k first).states,
        s.id = e.id ∧ s.isAlive = true ∧ s.hpFraction < lowHpFraction) ∧
      count .lowHp = 2 * called.length ∧
      AllSaid (called.flatMap fun e => Cue.lowHp e.build.displayName)
        (said.filter fun l => l.occasion = .lowHp)) ∧
    count .banter ≤ c.narration.banterCap ∧
    (∀ calls, last.narrator.performAll calls = last.narrator) ∧
    (∀ (n : Narrator) (r r' : Roster) (calls : List Narrator.Call),
      ((n.start r).performAll calls).start r' = (n.start r).performAll calls) ∧
    ∀ (n : Narrator) (moment : Float32) (winner : Option FighterState) (timedOut : Bool)
      (calls : List Narrator.Call),
      let closed := (n.finish moment winner timedOut).performAll calls
      (∀ moment winner timedOut, closed.finish moment winner timedOut = closed) ∧
        ∀ moment events states, closed.observe moment events states = closed := by
  intro first last record said count
  have fresh : first.Fresh r c.narration := start_fresh r a c
  clear_value first
  obtain ⟨n, o, heard, moment, closes⟩ := fresh.closes
  obtain ⟨⟨closing, finish, answers⟩, others⟩ :=
    Narrator.told_finish closes.going moment (winnerState first.run.states) o.timedOut
  obtain ⟨opens, ends⟩ := heard.finish_flags moment (winnerState first.run.states) o.timedOut
  rw [← closes.narrator] at finish others opens ends
  obtain ⟨perm, sorted, stable⟩ := last.narrator.transcript_stable
  have counts : ∀ o, count o = (last.narrator.told o).length :=
    fun o => (perm.filter fun l => l.occasion = o).length_eq
  have values : first.narrator.hitValues = heard.hitValues :=
    Narrator.hitValues_congr (fresh.names.trans closes.names.symm)
  have falls := closes.tally.falls
  rw [← values, ← others .pitFall (by decide)] at falls
  have seen := fun {s} => mem_footage_fighters (s := s) closes.positive closes.ended
  have known : ∀ s ∈ (first.footage n).flatMap (·.fighters), s.id ∈ r.entrants.map Entrant.id := by
    intro s shown
    obtain ⟨k, -, there⟩ := seen.mp shown
    rw [← fresh.ids, ← steps_ids first k]
    exact List.mem_map_of_mem there
  obtain ⟨called, once, listed, troubles⟩ :=
    closes.tally.fighters closes.names entered.distinct known
  rw [← others .lowHp (by decide)] at troubles
  refine ⟨⟨perm, sorted, stable⟩, ?_, ⟨?_, falls⟩, ?_,
    ⟨called, once, fun e => ?_, ?_, troubles⟩, ?_, ?_, Narrator.start_once, ?_⟩
  · rw [counts, others .start (by decide), closes.tally.opening]
  · rw [counts]
    exact falls.length_of_pairs fun _ => rfl
  · have won : record.winner = o.winner := result_winner closes.outcome
    rw [counts, finish, closes.tally.closing, List.nil_append, ← answers.length_eq, won,
      ← closes.winner]
    unfold Narrator.finishCues
    cases winnerState first.run.states <;> rfl
  · rw [listed]
    refine and_congr_right fun _ => ⟨?_, ?_⟩
    · rintro ⟨s, shown, same, trouble⟩
      obtain ⟨k, later, there⟩ := seen.mp shown
      exact ⟨k, later, s, there, same, s.isInTrouble_iff.mp trouble⟩
    · rintro ⟨k, later, s, there, same, trouble⟩
      exact ⟨s, seen.mpr ⟨k, later, there⟩, same, s.isInTrouble_iff.mpr trouble⟩
  · rw [counts]
    exact troubles.length_of_pairs fun _ => rfl
  · rw [counts, others .banter (by decide)]
    exact closes.banter
  · exact Narrator.performAll_of_done (opens.trans closes.started) ends
  · intro n moment winner timedOut calls closed
    have shut : closed.finished = true := n.finished_after moment winner timedOut calls
    exact ⟨Narrator.finish_of_finished shut, Narrator.observe_of_finished shut⟩

/-- A pit where the first fighter of a duel begins. -/
def trapdoor : Arena :=
  { Arena.plain with hazards := [⟨.pit, ⟨200, 300⟩, ⟨80, 80⟩, none⟩] }

/-- It falls in the first tick, and the other one wins. -/
theorem trapdoor_commentary :
    Roster.duel.Entered ∧
      let record := (start .duel trapdoor .usual).run.result
      let count := fun o : Occasion => (record.commentary.filter fun l => l.occasion = o).length
      count .start = 2 ∧ count .pitFall = 2 ∧ count .finish = 2 := by
  have fell : ((start .duel trapdoor .usual).run.result.damageLog.filter
      DamageEvent.isFall).length = 1 ∧
      (start .duel trapdoor .usual).run.result.winner.isSome = true := by decide +kernel
  obtain ⟨-, opening, ⟨falls, -⟩, closing, -⟩ :=
    commentary_agrees_with_record Roster.duel_entered trapdoor .usual
  rw [fell.1] at falls
  rw [if_pos fell.2] at closing
  exact ⟨Roster.duel_entered, opening, falls, closing⟩

end Battle

end RobotCombat
