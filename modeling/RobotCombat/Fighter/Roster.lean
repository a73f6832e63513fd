/-
# RobotCombat.Fighter.Roster — the fighters of a match

A match has two fighters with different ids. The place of a fighter in the
roster is its place in every other list of the match.
-/
import RobotCombat.Fighter.State

namespace RobotCombat

set_option autoImplicit false

/-- A fighter as entered: what does not change during the match. -/
structure Entrant where
  build : Build
  loadout : Loadout
  stats : Stats
  spawn : Vector2
  deriving DecidableEq, Repr

namespace Entrant

def of (b : Build) (spawn : Vector2) (c : Catalog) : Entrant :=
  let loadout := Loadout.resolve b c
  ⟨b, loadout, loadout.stats, spawn⟩

def id (e : Entrant) : String := e.build.id

def spawnState (e : Entrant) : FighterState :=
  .spawn e.id e.loadout e.spawn

end Entrant

/-- Why a fighter is not entered. -/
inductive EntryError where
  | alreadyStarted (id : String)
  | duplicateId (id : String)
  | rosterFull (size : Nat)
  deriving DecidableEq, Repr

def EntryError.message : EntryError → String
  | .alreadyStarted id => "cannot add fighter '" ++ id ++ "' after the match has started"
  | .duplicateId id => "a fighter with id '" ++ id ++ "' is already in the match"
  | .rosterFull size => "match already has " ++ toString size ++ " fighters"

/-- The entrants in order. -/
structure Roster where
  entrants : List Entrant
  deriving DecidableEq, Repr

namespace Roster

/-- Fighters in a match. -/
def capacity : Nat := 2

def empty : Roster := ⟨[]⟩

def size (r : Roster) : Nat := r.entrants.length

/-- The place of the fighter with an id. -/
def place? (r : Roster) (id : String) : Option Nat :=
  r.entrants.findIdx? fun e => e.id = id

def get? (r : Roster) (place : Nat) : Option Entrant := r.entrants[place]?

/-- Enters a fighter at a point of the floor. A full roster is reported before a
taken id. -/
def add (r : Roster) (b : Build) (spawn : Vector2) (c : Catalog) : Except EntryError Roster :=
  if capacity ≤ r.size then .error (.rosterFull r.size)
  else if (r.place? b.id).isSome then .error (.duplicateId b.id)
  else .ok ⟨r.entrants ++ [.of b spawn c]⟩

/-- The place of the first other fighter. -/
def opponentOf? (r : Roster) (place : Nat) : Option Nat :=
  (List.range r.size).find? fun other => other ≠ place

def spawnStates (r : Roster) : List FighterState :=
  r.entrants.map Entrant.spawnState

end Roster

end RobotCombat
