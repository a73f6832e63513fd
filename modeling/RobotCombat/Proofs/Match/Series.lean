/-
# RobotCombat.Proofs.Match.Series — the summary of a series adds up

Every entry of a summary is a count over the results: the wins of a fighter
(`winsFor_ofResults`), all wins (`total_wins`), draws and timeouts. So for any results
wins and draws add up to the number of matches (`wins_add_draws`).

The matches of a series differ in their seeds alone, and the seed belongs to the show:
they all end alike (`ends_alike`), and each count is all of the series or nothing.

* `series_adds_up`: the results of a series, and what their summary comes to.
-/
import RobotCombat.Match.Series
import RobotCombat.Proofs.Catalog.Table
import RobotCombat.Proofs.Match.Presentation

namespace RobotCombat

set_option autoImplicit false

/-! ## Tables of counts -/

namespace Table

/-- All counts of a table together. -/
def total (t : Table Nat) : Nat := (t.entries.map (·.2)).sum

theorem sum_insertEntry (id : String) (n : Nat) :
    ∀ {entries : List (String × Nat)}, SortedById entries →
      ((insertEntry id n entries).map (·.2)).sum + (entries.lookup id).getD 0 =
        (entries.map (·.2)).sum + n
  | [], _ => by simp [insertEntry]
  | (other, kept) :: rest, sorted => by
      obtain ⟨before, tail⟩ := List.pairwise_cons.mp sorted
      rw [lookup_entry]
      unfold insertEntry
      by_cases below : id < other
      -- an id before the first one has no count yet
      · have unknown : rest.lookup id = none := by
          rw [List.lookup_eq_none_iff]
          intro entry member
          have above : id < entry.1 := String.lt_trans below (before entry member)
          exact bne_iff_ne.mpr (String.ne_of_lt above)
        rw [if_pos below, if_neg (String.ne_of_lt below), unknown]
        simp only [List.map_cons, List.sum_cons, Option.getD_none]
        omega
      · rw [if_neg below]
        by_cases same : id = other
        · rw [if_pos same, if_pos same]
          simp only [List.map_cons, List.sum_cons, Option.getD_some]
          omega
        · have later := sum_insertEntry id n tail
          rw [if_neg same, if_neg same]
          simp only [List.map_cons, List.sum_cons]
          omega

/-- A new count counts in place of the old one. -/
theorem total_insert (t : Table Nat) (id : String) (n : Nat) :
    (t.insert id n).total + (t.find? id).getD 0 = t.total + n :=
  sum_insertEntry id n t.sorted

end Table

/-! ## What a summary counts -/

namespace SeriesSummary

section Winless

/-- Adds a fighter without a win. -/
def enterWinless (t : Table Nat) (s : FinalState) : Table Nat := t.insert s.id 0

variable (states : List FinalState) (t : Table Nat) (id : String)

theorem total_enterWinless : (states.foldl enterWinless t).total ≤ t.total := by
  induction states generalizing t with
  | nil => exact le_rfl
  | cons s states ih =>
      have replaced := t.total_insert s.id 0
      have first : (enterWinless t s).total ≤ t.total := by
        unfold enterWinless
        omega
      exact (ih (enterWinless t s)).trans first

theorem find?_enterWinless (none : (t.find? id).getD 0 = 0) :
    ((states.foldl enterWinless t).find? id).getD 0 = 0 := by
  induction states generalizing t with
  | nil => exact none
  | cons s states ih =>
      apply ih
      unfold enterWinless
      rw [Table.find?_insert]
      split
      · rfl
      · exact none

theorem mem_ids_enterWinless :
    id ∈ (states.foldl enterWinless t).ids ↔ (∃ s ∈ states, s.id = id) ∨ id ∈ t.ids := by
  induction states generalizing t with
  | nil => simp
  | cons s states ih =>
      rw [List.foldl_cons, ih, enterWinless, Table.mem_ids_insert, List.exists_mem_cons_iff, or_assoc,
        or_left_comm, eq_comm]

end Winless

theorem winless_eq (results : List MatchResult) :
    winless results = (results.flatMap fun r => r.finalStates).foldl enterWinless .empty := rfl

section Counting

variable (t : Table Nat) (r : MatchResult) (results : List MatchResult) (id : String)

theorem total_countWin :
    (countWin t r).total = t.total + if r.winner.isSome then 1 else 0 := by
  unfold countWin
  cases r.winner with
  | none => rfl
  | some winner =>
      have replaced := t.total_insert winner ((t.find? winner).getD 0 + 1)
      simp only [Option.isSome_some, if_true]
      omega

theorem find?_countWin :
    ((countWin t r).find? id).getD 0 =
      (t.find? id).getD 0 + if r.winner = some id then 1 else 0 := by
  unfold countWin
  cases r.winner with
  | none => simp
  | some winner =>
      by_cases same : id = winner
      · simp [same]
      · simp [same, Ne.symm same]

theorem mem_ids_countWin : id ∈ (countWin t r).ids ↔ r.winner = some id ∨ id ∈ t.ids := by
  unfold countWin
  cases r.winner with
  | none => simp
  | some winner => simp [Table.mem_ids_insert, eq_comm]

theorem total_foldl_countWin :
    (results.foldl countWin t).total = t.total + results.countP (·.winner.isSome) := by
  induction results generalizing t with
  | nil => rfl
  | cons r results ih =>
      rw [List.foldl_cons, ih, total_countWin, List.countP_cons]
      omega

theorem find?_foldl_countWin :
    ((results.foldl countWin t).find? id).getD 0 =
      (t.find? id).getD 0 + results.countP (·.winner = some id) := by
  induction results generalizing t with
  | nil => rfl
  | cons r results ih =>
      rw [List.foldl_cons, ih, find?_countWin, List.countP_cons]
      simp only [decide_eq_true_eq]
      omega

theorem mem_ids_foldl_countWin :
    id ∈ (results.foldl countWin t).ids ↔ (∃ r ∈ results, r.winner = some id) ∨ id ∈ t.ids := by
  induction results generalizing t with
  | nil => simp
  | cons r results ih =>
      rw [List.foldl_cons, ih, mem_ids_countWin, List.exists_mem_cons_iff, or_assoc, or_left_comm]

end Counting

variable (seed : UInt64) (results : List MatchResult)

/-- The wins of a fighter are the results that it won. -/
theorem winsFor_ofResults (id : String) :
    (ofResults seed results).winsFor id = results.countP (·.winner = some id) := by
  unfold winsFor ofResults
  rw [find?_foldl_countWin, winless_eq, find?_enterWinless _ _ _ rfl, Nat.zero_add]

/-- All wins together are the results with a winner. -/
theorem total_wins :
    (ofResults seed results).wins.total = results.countP (·.winner.isSome) := by
  have none : (winless results).total = 0 := by
    rw [winless_eq]
    exact Nat.le_zero.mp (total_enterWinless _ .empty)
  unfold ofResults
  rw [total_foldl_countWin, none, Nat.zero_add]

theorem draws_ofResults : (ofResults seed results).draws = results.countP (·.isDraw) :=
  List.countP_eq_length_filter.symm

theorem timeouts_ofResults : (ofResults seed results).timeouts = results.countP (·.timedOut) :=
  List.countP_eq_length_filter.symm

/-- Fighters have an entry exactly if they won or came to the end of a match. -/
theorem mem_ids_ofResults (id : String) :
    id ∈ (ofResults seed results).wins.ids ↔
      ∃ r ∈ results, r.winner = some id ∨ id ∈ r.finalStates.map (·.id) := by
  have nobody : id ∉ (Table.empty : Table Nat).ids := List.not_mem_nil
  unfold ofResults
  rw [mem_ids_foldl_countWin, winless_eq, mem_ids_enterWinless]
  simp only [List.mem_flatMap, List.mem_map, nobody, or_false, and_or_left, exists_or]
  constructor
  · rintro (won | ⟨s, ⟨r, member, listed⟩, same⟩)
    · exact .inl won
    · exact .inr ⟨r, member, s, listed, same⟩
  · rintro (won | ⟨r, member, s, listed, same⟩)
    · exact .inl won
    · exact .inr ⟨s, ⟨r, member, listed⟩, same⟩

/-- Every result is a win or a draw. -/
theorem wins_add_draws :
    (ofResults seed results).wins.total + (ofResults seed results).draws = results.length := by
  have drawn : results.countP (·.isDraw) = results.countP fun r => ¬ r.winner.isSome = true :=
    List.countP_congr fun r _ => by simp [MatchResult.isDraw]
  rw [total_wins, draws_ofResults, drawn]
  exact (List.length_eq_countP_add_countP _).symm

end SeriesSummary

/-! ## One match of a series -/

namespace Battle

variable (a b : Build) (arenaId : String) (c : Catalog) (config : MatchConfig)

/-- The seed belongs to the show. -/
theorem reseeded_alike (seed : UInt64) :
    Alike (battleOf a b arenaId c { config with seed := seed }) (battleOf a b arenaId c config) := by
  have settings : MatchConfig.stripped { config with seed := seed } = config.stripped := rfl
  exact start_alike rfl settings _

theorem runBattle_ids :
    (runBattle a b arenaId c config).finalStates.map (·.id) = [a.id, (b.beside a).id] :=
  (result_ids _).trans ((run_ids rfl).trans (battleOf_ids a b arenaId c config))

/-- How a match ended, as its final states say. -/
theorem runBattle_judged :
    ∃ o n, outcomeOf? config n (battleOf a b arenaId c config).run.states = some o ∧
      (runBattle a b arenaId c config).winner = o.winner ∧
      (runBattle a b arenaId c config).timedOut = o.timedOut := by
  obtain ⟨n, o, -, -, -, -, outcome, judged, -⟩ :=
    run_judged (b := battleOf a b arenaId c config) rfl rfl
  exact ⟨o, n, judged, result_winner outcome, result_timedOut outcome⟩

/-- A match that timed out has no winner. -/
theorem runBattle_timedOut (up : (runBattle a b arenaId c config).timedOut = true) :
    (runBattle a b arenaId c config).winner = none := by
  obtain ⟨o, n, judged, winner, timedOut⟩ := runBattle_judged a b arenaId c config
  rw [timedOut] at up
  rw [winner]
  rcases outcomeOf?_cases judged with ⟨-, rfl⟩ | ⟨-, -, rfl⟩
  · cases up
  · rfl

/-- The winner of a match is one of its fighters. -/
theorem runBattle_winner {id : String} (won : (runBattle a b arenaId c config).winner = some id) :
    id = a.id ∨ id = (b.beside a).id := by
  obtain ⟨o, n, judged, winner, -⟩ := runBattle_judged a b arenaId c config
  rw [winner] at won
  have listed : id ∈ (battleOf a b arenaId c config).run.states.map (·.id) := by
    rcases outcomeOf?_cases judged with ⟨-, rfl⟩ | ⟨-, -, rfl⟩
    · obtain ⟨s, first, rfl⟩ := Option.map_eq_some_iff.mp won
      have alive : s ∈ living (battleOf a b arenaId c config).run.states :=
        List.mem_of_head? first
      exact List.mem_map_of_mem (List.mem_of_mem_filter alive)
    · cases won
  rw [run_ids rfl, battleOf_ids] at listed
  simpa using listed

end Battle

/-! ## A series -/

section Series

variable (a b : Build) (arenaId : String) (c : Catalog) (config : MatchConfig) (runs : Nat)

theorem length_playSeries : (playSeries a b arenaId c config runs).length = runs := by
  unfold playSeries
  rw [List.length_map, List.length_range]

/-- All matches of a series end like the one with the given seed. -/
theorem ends_alike {r : MatchResult} (member : r ∈ playSeries a b arenaId c config runs) :
    r.winner = (runBattle a b arenaId c config).winner ∧
      r.timedOut = (runBattle a b arenaId c config).timedOut ∧
      r.finalStates = (runBattle a b arenaId c config).finalStates := by
  obtain ⟨place, -, rfl⟩ := List.mem_map.mp member
  have ends := (Battle.reseeded_alike a b arenaId c config (config.seed + .ofNat place)).run
  exact ⟨ends.reading (·.result.winner) fun _ => rfl,
    ends.reading (·.result.timedOut) fun _ => rfl,
    ends.reading (·.result.finalStates) fun _ => rfl⟩

/-- What holds of one match holds of all of a series, or of none. -/
theorem countP_playSeries {p : MatchResult → Bool} {answer : Bool}
    (every : ∀ r ∈ playSeries a b arenaId c config runs, p r = answer) :
    (playSeries a b arenaId c config runs).countP p = if answer then runs else 0 := by
  cases answer with
  | true =>
      rw [if_pos rfl, List.countP_eq_length.mpr every, length_playSeries]
  | false =>
      rw [if_neg Bool.false_ne_true, List.countP_eq_zero]
      intro r member
      rw [every r member]
      exact Bool.false_ne_true

/-- The match at a place of a series: its seed starts over past the largest. -/
theorem getElem?_playSeries {place : Nat} (below : place < runs) :
    (playSeries a b arenaId c config runs)[place]? =
      some (runBattle a b arenaId c
        { config with seed := .ofNat ((config.seed.toNat + place) % UInt64.size) }) := by
  have seed : config.seed + .ofNat place =
      .ofNat ((config.seed.toNat + place) % UInt64.size) := by
    apply UInt64.toNat_inj.mp
    rw [UInt64.toNat_add, UInt64.toNat_ofNat', UInt64.toNat_ofNat']
    simp [UInt64.size]
  have here : (List.range runs)[place]? = some place := List.getElem?_range below
  unfold playSeries
  rw [List.getElem?_map, here, ← seed]
  rfl

theorem winsFor_runSeries (id : String) :
    (runSeries a b arenaId c config runs).winsFor id =
      if (runBattle a b arenaId c config).winner = some id then runs else 0 := by
  have counted : (runSeries a b arenaId c config runs).winsFor id =
      (playSeries a b arenaId c config runs).countP (·.winner = some id) :=
    SeriesSummary.winsFor_ofResults _ _ id
  rw [counted, countP_playSeries a b arenaId c config runs fun r member => by
    rw [(ends_alike a b arenaId c config runs member).1]]
  simp only [decide_eq_true_eq]

theorem draws_runSeries :
    (runSeries a b arenaId c config runs).draws =
      if (runBattle a b arenaId c config).winner = none then runs else 0 := by
  have counted : (runSeries a b arenaId c config runs).draws =
      (playSeries a b arenaId c config runs).countP (·.isDraw) :=
    SeriesSummary.draws_ofResults _ _
  rw [counted, countP_playSeries a b arenaId c config runs fun r member => by
    rw [MatchResult.isDraw, (ends_alike a b arenaId c config runs member).1]]
  simp only [Option.isNone_iff_eq_none]

theorem timeouts_runSeries :
    (runSeries a b arenaId c config runs).timeouts =
      if (runBattle a b arenaId c config).timedOut then runs else 0 := by
  have counted : (runSeries a b arenaId c config runs).timeouts =
      (playSeries a b arenaId c config runs).countP (·.timedOut) :=
    SeriesSummary.timeouts_ofResults _ _
  rw [counted]
  exact countP_playSeries a b arenaId c config runs fun r member =>
    (ends_alike a b arenaId c config runs member).2.1

/-- Once a match is played, the two fighters have entries and nobody else has. -/
theorem mem_ids_runSeries (played : 0 < runs) (id : String) :
    id ∈ (runSeries a b arenaId c config runs).wins.ids ↔ id ∈ [a.id, (b.beside a).id] := by
  have listed : ∀ r ∈ playSeries a b arenaId c config runs,
      r.finalStates.map (·.id) = [a.id, (b.beside a).id] := by
    intro r member
    rw [(ends_alike a b arenaId c config runs member).2.2, Battle.runBattle_ids]
  have entry : id ∈ (runSeries a b arenaId c config runs).wins.ids ↔
      ∃ r ∈ playSeries a b arenaId c config runs,
        r.winner = some id ∨ id ∈ r.finalStates.map (·.id) :=
    SeriesSummary.mem_ids_ofResults _ _ id
  rw [entry]
  constructor
  · rintro ⟨r, member, won | present⟩
    · rw [(ends_alike a b arenaId c config runs member).1] at won
      simpa using Battle.runBattle_winner a b arenaId c config won
    · exact listed r member ▸ present
  · intro present
    have first : seriesMatch a b arenaId c config 0 ∈ playSeries a b arenaId c config runs :=
      List.mem_map_of_mem (List.mem_range.mpr played)
    exact ⟨_, first, .inr (listed _ first ▸ present)⟩

/-- The wins of the two fighters and the draws: one is the whole series, two are nothing. -/
theorem shares_runSeries :
    [(runSeries a b arenaId c config runs).winsFor a.id,
      (runSeries a b arenaId c config runs).winsFor (b.beside a).id,
      (runSeries a b arenaId c config runs).draws].Perm [runs, 0, 0] := by
  have different : a.id ≠ (b.beside a).id := b.beside_id_ne a
  rw [winsFor_runSeries, winsFor_runSeries, draws_runSeries]
  cases winner : (runBattle a b arenaId c config).winner with
  | none =>
      have last : ([0, 0] ++ [runs]).Perm ([runs] ++ [0, 0]) := List.perm_append_comm
      simpa using last
  | some id =>
      rcases Battle.runBattle_winner a b arenaId c config winner with rfl | rfl
      · simp [different]
      · simpa [different.symm] using List.Perm.swap runs 0 [0]

end Series

/-- A series of matches lists, in order, the records of the matches whose seeds count up
from the given one and start over past the largest. Its summary counts the matches; the
wins of all fighters and the draws add up to that number, and no more matches time out
than are drawn. Once a match is played there are entries for the two fighters of the
pairing and nobody else. One of the win counts of the two and the draws is the whole
series and the other two are zero, and either all matches time out or none does. -/
theorem series_adds_up (a b : Build) (arenaId : String) (c : Catalog) (config : MatchConfig)
    (runs : Nat) :
    let results := playSeries a b arenaId c config runs
    let summary := runSeries a b arenaId c config runs
    let second := if a.id = b.id then a.id ++ "#2" else b.id
    (results.length = runs ∧ ∀ place < runs, results[place]? =
      some (runBattle a b arenaId c
        { config with seed := .ofNat ((config.seed.toNat + place) % UInt64.size) })) ∧
    summary.runs = runs ∧ summary.firstSeed = config.seed ∧
    summary.wins.total + summary.draws = runs ∧
    summary.timeouts ≤ summary.draws ∧
    (0 < runs → summary.wins.ids.Perm [a.id, second] ∧ a.id ≠ second) ∧
    [summary.winsFor a.id, summary.winsFor second, summary.draws].Perm [runs, 0, 0] ∧
    (summary.timeouts = 0 ∨ summary.timeouts = runs) := by
  intro results summary second
  have renamed : (b.beside a).id = second := b.beside_id a
  have different : a.id ≠ second := renamed ▸ b.beside_id_ne a
  have length : results.length = runs := length_playSeries a b arenaId c config runs
  have timeouts : summary.timeouts =
      if (runBattle a b arenaId c config).timedOut then runs else 0 :=
    timeouts_runSeries a b arenaId c config runs
  refine ⟨⟨length, fun place below => ?_⟩, length, rfl, ?_, ?_, ?_, ?_, ?_⟩
  · exact getElem?_playSeries a b arenaId c config runs below
  · exact (SeriesSummary.wins_add_draws config.seed results).trans length
  · rw [timeouts, draws_runSeries a b arenaId c config runs]
    cases up : (runBattle a b arenaId c config).timedOut with
    | false => exact Nat.zero_le _
    | true => rw [Battle.runBattle_timedOut a b arenaId c config up]; rfl
  · intro played
    refine ⟨?_, different⟩
    have entered : [a.id, second].Nodup := by simpa using different
    refine (List.perm_ext_iff_of_nodup summary.wins.nodup_ids entered).mpr fun id => ?_
    rw [← renamed]
    exact mem_ids_runSeries a b arenaId c config runs played id
  · rw [← renamed]
    exact shares_runSeries a b arenaId c config runs
  · rw [timeouts]
    cases (runBattle a b arenaId c config).timedOut with
    | false => exact .inl rfl
    | true => exact .inr rfl

end RobotCombat
