/-
# RobotCombat.Match.Config — everything that shapes a match besides the fighters

A match lasts at most as many ticks as fit into its longest duration, rounded to
the nearest whole number; a tick length that is not positive leaves no time at
all.
-/
import RobotCombat.Narration.Settings
import RobotCombat.Physics.World

namespace RobotCombat

set_option autoImplicit false

open Number

/-- How ticks are paced. It changes nothing about a tick. -/
inductive Pacing where
  | headless
  | interactive
  deriving DecidableEq, Repr, Inhabited

namespace Pacing

def all : List Pacing := [.headless, .interactive]

def tag : Pacing → String
  | .headless => "headless"
  | .interactive => "interactive"

def ofTag? (tag : String) : Option Pacing :=
  all.find? fun p => p.tag = tag

end Pacing

/-- The settings of a match. Spawn points are parts of the arena's width and
height, in roster order. -/
structure MatchConfig where
  tickMs : Float32
  maxDurationMs : Float32
  seed : UInt64
  spawnFractions : Vector2 × Vector2
  recordFrames : Bool
  physics : PhysicsSettings
  narration : NarrationSettings
  pacing : Pacing
  deriving DecidableEq, Repr

namespace MatchConfig

/-- The usual match: a minute at sixty ticks per second. -/
def usual : MatchConfig :=
  { tickMs := RobotCombat.tickMs
    maxDurationMs := 60000
    seed := 0
    spawnFractions := (⟨0.25, 0.5⟩, ⟨0.75, 0.5⟩)
    recordFrames := false
    physics := .usual
    narration := .broadcast
    pacing := .headless }

/-- A match to watch as it runs. -/
def interactive : MatchConfig :=
  { usual with pacing := .interactive, narration := .live }

/-- The ticks that a match lasts at most. -/
def maxTicks (c : MatchConfig) : Nat :=
  if c.tickMs ≤ 0 then 0
  else toNatUpTo maxCount (larger (roundAway (c.maxDurationMs / c.tickMs)) 0)

/-- The time at the end of a tick. -/
def timeAt (c : MatchConfig) (tick : Nat) : Float32 :=
  ofCount tick * c.tickMs

end MatchConfig

end RobotCombat
