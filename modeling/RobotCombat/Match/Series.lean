/-
# RobotCombat.Match.Series — many matches of one pairing

The matches of a series differ in their seeds, which count up from the first one
and start over past the largest. A summary counts wins, draws and timeouts; every
fighter that came to the end of a match has an entry, also without a win.
-/
import RobotCombat.Catalog.Table
import RobotCombat.Match.Battle

namespace RobotCombat

set_option autoImplicit false

open Number

/-- What a series came to. -/
structure SeriesSummary where
  runs : Nat
  firstSeed : UInt64
  wins : Table Nat
  draws : Nat
  timeouts : Nat
  meanDurationMs : Float32

namespace SeriesSummary

/-- The win table of fighters that have not won yet. -/
def winless (results : List MatchResult) : Table Nat :=
  (results.flatMap fun r => r.finalStates).foldl (fun t s => t.insert s.id 0) .empty

/-- Counts a win. -/
def countWin (t : Table Nat) (r : MatchResult) : Table Nat :=
  match r.winner with
  | some id => t.insert id ((t.find? id).getD 0 + 1)
  | none => t

/-- The mean duration; zero for no match. -/
def meanDuration (results : List MatchResult) : Float32 :=
  if results.isEmpty then 0
  else (results.foldl (fun sum r => sum + r.duration) 0) / ofCount results.length

/-- The summary of results in seed order. -/
def ofResults (firstSeed : UInt64) (results : List MatchResult) : SeriesSummary :=
  { runs := results.length
    firstSeed := firstSeed
    wins := results.foldl countWin (winless results)
    draws := (results.filter (·.isDraw)).length
    timeouts := (results.filter (·.timedOut)).length
    meanDurationMs := meanDuration results }

/-- The wins of a fighter. -/
def winsFor (s : SeriesSummary) (id : String) : Nat := (s.wins.find? id).getD 0

end SeriesSummary

/-- The match of a series at a place. -/
def seriesMatch (a b : Build) (arenaId : String) (c : Catalog) (config : MatchConfig)
    (place : Nat) : MatchResult :=
  runBattle a b arenaId c { config with seed := config.seed + UInt64.ofNat place }

/-- The results of a series in seed order. -/
def playSeries (a b : Build) (arenaId : String) (c : Catalog) (config : MatchConfig)
    (runs : Nat) : List MatchResult :=
  (List.range runs).map (seriesMatch a b arenaId c config)

/-- The summary of a series. -/
def runSeries (a b : Build) (arenaId : String) (c : Catalog) (config : MatchConfig)
    (runs : Nat) : SeriesSummary :=
  .ofResults config.seed (playSeries a b arenaId c config runs)

end RobotCombat
