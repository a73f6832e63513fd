/-
# RobotCombat.Match.Result — what a match leaves behind
-/
import RobotCombat.Damage.Event
import RobotCombat.Fighter.State
import RobotCombat.Narration.Line

namespace RobotCombat

set_option autoImplicit false

open Number

/-- The fighters after a tick, and the damage dealt in it. -/
structure Frame where
  tick : Nat
  timestamp : Float32
  fighters : List FighterState
  damage : List DamageEvent
  deriving DecidableEq, Repr

namespace Frame

/-- The state of the fighter with an id. -/
def fighter? (f : Frame) (id : String) : Option FighterState :=
  f.fighters.find? fun s => s.id = id

end Frame

/-- A fighter at the end of a match. -/
structure FinalState where
  id : String
  hp : Float32
  maxHp : Float32
  isAlive : Bool
  position : Vector2
  finalAction : String
  deriving DecidableEq, Repr

namespace FinalState

/-- Hit points are rounded to whole points. -/
def of (s : FighterState) : FinalState :=
  ⟨s.id, roundAway s.hp, s.maxHp, s.isAlive, s.position, s.action⟩

end FinalState

/-- The record of a match. -/
structure MatchResult where
  winner : Option String
  duration : Float32
  frameCount : Nat
  finalStates : List FinalState
  damageLog : List DamageEvent
  commentary : List Line
  timedOut : Bool
  frames : List Frame
  deriving DecidableEq, Repr

/-- A sum from left to right that starts at negative zero. -/
def sumFromLeft (xs : List Float32) : Float32 :=
  xs.foldl (· + ·) (-0.0)

namespace MatchResult

def isDraw (r : MatchResult) : Bool := r.winner.isNone

/-- The final state of the fighter with an id. -/
def finalState? (r : MatchResult) (id : String) : Option FinalState :=
  r.finalStates.find? fun s => s.id = id

/-- The damage that a fighter dealt. -/
def damageDealtBy (r : MatchResult) (id : String) : Float32 :=
  sumFromLeft ((r.damageLog.filter fun e => e.attacker = some id).map (·.damage))

/-- The damage that a fighter took. -/
def damageTakenBy (r : MatchResult) (id : String) : Float32 :=
  sumFromLeft ((r.damageLog.filter fun e => e.target = id).map (·.damage))

end MatchResult

end RobotCombat
