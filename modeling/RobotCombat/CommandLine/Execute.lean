/-
# RobotCombat.CommandLine.Execute — what a command prints

Files are read through a function, so that a command means the same over any
store of files. A command that fails prints nothing but its failure, except that
a check lists the mistakes it found first.
-/
import RobotCombat.Catalog.Stock
import RobotCombat.CommandLine.Arguments
import RobotCombat.CommandLine.BattleFile
import RobotCombat.CommandLine.Files
import RobotCombat.Json.Writer

namespace RobotCombat.CommandLine

set_option autoImplicit false

/-- Why a command fails. -/
inductive Failure where
  | unreadableBattle (path : String)
  | undecodableBattle (path : String)
  | unreadableCatalog (path : String)
  | unloadableCatalog (path : String)
  | notTwoFighters (path : String)
  | unreadableScript (path : String)
  | malformedScript (path : String)
  deriving DecidableEq, Repr

def Failure.message : Failure → String
  | .unreadableBattle path => "failed to read battle file " ++ path
  | .undecodableBattle path => "invalid battle file " ++ path
  | .unreadableCatalog path => "failed to read catalog " ++ path
  | .unloadableCatalog path => "invalid catalog " ++ path
  | .notTwoFighters path => "battle file " ++ path ++ " must list exactly two fighters"
  | .unreadableScript path => "failed to read script " ++ path
  | .malformedScript path => path ++ " has malformed lines"

/-- What a command leaves: its exit code and the texts on its two outputs. -/
structure Outcome where
  code : Nat
  output : String
  errors : String
  deriving DecidableEq, Repr

namespace Outcome

def success (output : String) : Outcome := ⟨0, output, ""⟩

def failure (output : String) (f : Failure) : Outcome :=
  ⟨1, output, "Error: " ++ f.message ++ "\n"⟩

/-- The words do not form a command. -/
def usage : Outcome := ⟨2, "", "Error: unknown command or options\n"⟩

end Outcome

/-- A pairing with everything found that it names. -/
structure Prepared where
  first : Build
  second : Build
  arenaId : String
  catalog : Catalog
  config : MatchConfig

namespace Prepared

/-- The settings of a battle file with the changes of a command. A match on the
command line is never paced. -/
def configure (config : MatchConfig) (o : Overrides) : MatchConfig :=
  { config with
    seed := o.seed.getD config.seed
    narration := o.narration.getD config.narration
    pacing := .headless }

/-- The pairing of a battle file. -/
def of (path : String) (file : BattleFile) (catalog : Catalog) (o : Overrides) :
    Except Failure Prepared :=
  match file.fighters with
  | [a, b] =>
    .ok
      { first := a
        second := b
        arenaId := (o.arena <|> file.arena).getD Catalog.fallbackArena
        catalog := catalog
        config := configure file.config o }
  | _ => .error (.notTwoFighters path)

/-- The record of the match. -/
def play (p : Prepared) : MatchResult :=
  runBattle p.first p.second p.arenaId p.catalog p.config

/-- The summary of a series. -/
def playMany (p : Prepared) (runs : Nat) : SeriesSummary :=
  runSeries p.first p.second p.arenaId p.catalog p.config runs

end Prepared

/-- A document as a command prints it. -/
def document (pretty : Bool) (j : Json) : String :=
  (if pretty then j.pretty else j.compact) ++ "\n"

/-- The report on a script. -/
def scriptReport (p : Script.Parsed) : String :=
  String.join (p.mistakes.map fun m => m.report ++ "\n")
    ++ toString p.program.rules.length ++ " rule(s), " ++ toString p.mistakes.length
    ++ " error(s)\n"

/-- One line of a catalog's listing. -/
def listing (table : String) (ids : List String) : String :=
  table ++ ": " ++ ", ".intercalate ids ++ "\n"

/-- The ids of a catalog. -/
def catalogReport (c : Catalog) : String :=
  listing "chassis" c.chassis.ids ++ listing "weapons" c.weapons.ids
    ++ listing "armor" c.armor.ids ++ listing "arenas" c.arenas.ids

section

variable {m : Type → Type} [Monad m] (read : String → m (Option String))

/-- The text of a file. -/
def readFile (path : String) (unreadable : Failure) : ExceptT Failure m String := do
  match ← read path with
  | some text => pure text
  | none => throw unreadable

def loadCatalog (path : String) : ExceptT Failure m Catalog := do
  let text ← readFile read path (.unreadableCatalog path)
  match Catalog.load text with
  | .ok c => pure c
  | .error _ => throw (.unloadableCatalog path)

/-- The stock catalog where no other is named. -/
def catalogAt (path : Option String) : ExceptT Failure m Catalog :=
  match path with
  | some path => loadCatalog read path
  | none => pure .stock

/-- The pairing of a battle file: the file is read and decoded, then its catalog
is loaded, and then its fighters are counted. -/
def prepare (path : String) (o : Overrides) : ExceptT Failure m Prepared := do
  let text ← readFile read path (.unreadableBattle path)
  match BattleFile.ofText? text with
  | none => throw (.undecodableBattle path)
  | some file =>
    let catalog ← catalogAt read (file.catalog.map (join (directoryOf path)))
    match Prepared.of path file catalog o with
    | .ok p => pure p
    | .error f => throw f

/-- What a command prints, and the failure it may end with after that. -/
def report (c : Command) : ExceptT Failure m (String × Option Failure) := do
  match c with
  | .run path o frames pretty =>
    let p ← prepare read path o
    let p := { p with config := { p.config with recordFrames := p.config.recordFrames || frames } }
    pure (document pretty p.play.toJson, none)
  | .series path o runs pretty =>
    let p ← prepare read path o
    pure (document pretty (p.playMany runs).toJson, none)
  | .check path =>
    let parsed := Script.parse (← readFile read path (.unreadableScript path))
    pure (scriptReport parsed,
      if parsed.mistakes.isEmpty then none else some (.malformedScript path))
  | .catalog path =>
    let c ← catalogAt read path
    pure (catalogReport c, none)

/-- Carries out a command line. -/
def execute (words : List String) : m Outcome := do
  match Command.ofWords? words with
  | none => pure .usage
  | some c =>
    match ← (report read c).run with
    | .ok (output, none) => pure (.success output)
    | .ok (output, some f) => pure (.failure output f)
    | .error f => pure (.failure "" f)

end

end RobotCombat.CommandLine
