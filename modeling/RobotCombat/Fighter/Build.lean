/-
# RobotCombat.Fighter.Build — a fighter as its player put it together

A build names parts by catalog id and says how the fighter decides: by one of
five preset behaviors with some tuning, or by a script.
-/
import RobotCombat.Number.Single

namespace RobotCombat

set_option autoImplicit false

open Number

/-- A preset way to fight. -/
inductive Behavior where
  | aggressive
  | defensive
  | flanker
  | ram
  | reactive
  deriving DecidableEq, Repr, Inhabited

namespace Behavior

def all : List Behavior := [.aggressive, .defensive, .flanker, .ram, .reactive]

def tag : Behavior → String
  | .aggressive => "aggressive"
  | .defensive => "defensive"
  | .flanker => "flanker"
  | .ram => "ram"
  | .reactive => "reactive"

def ofTag? (tag : String) : Option Behavior :=
  all.find? fun b => b.tag = tag

end Behavior

/-- A preset strategy. The engagement distance is carried along and used by no
behavior. -/
structure Tuning where
  primary : Behavior
  secondary : Option Behavior
  aggression : Float32
  engagementDistance : Float32
  deriving DecidableEq, Repr

namespace Tuning

/-- A behavior with the usual tuning. -/
def of (primary : Behavior) : Tuning := ⟨primary, none, 50, 100⟩

/-- Aggression lies between 0 and 100. -/
def withAggression (t : Tuning) (aggression : Float32) : Tuning :=
  { t with aggression := clamp aggression 0 100 }

end Tuning

/-- How a fighter decides. -/
inductive Strategy where
  | preset (tuning : Tuning)
  | script (source : String)
  deriving DecidableEq, Repr

/-- The strategy of a fighter that names none. -/
def Strategy.usual : Strategy := .preset (.of .aggressive)

/-- A fighter as built. -/
structure Build where
  id : String
  name : String
  chassisId : String
  weaponIds : List String
  armorId : Option String
  color : String
  strategy : Strategy
  deriving DecidableEq, Repr

namespace Build

/-- A fighter that is named like its id and has a chassis and a strategy only. -/
def bare (id chassisId : String) (strategy : Strategy) : Build :=
  ⟨id, id, chassisId, [], none, "", strategy⟩

/-- The name that the narrators use. -/
def displayName (b : Build) : String :=
  if b.name = "" then b.id else b.name

/-- The fighter under another id. A name equal to the old id follows it. -/
def withId (b : Build) (id : String) : Build :=
  { b with id := id, name := if b.name = b.id then id else b.name }

end Build

end RobotCombat
