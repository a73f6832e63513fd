/-
# RobotCombat.Tactics.Scripted — the actions of a script as motion

Every action but one is a function of the two positions and the arena. Ramming
goes in cycles: the fighter backs away until it has spent `ramWindupMs` in the
cycle, then charges, and a charge that comes within `ramResetDistance` starts a
new cycle. The time spent is kept through all other actions.
-/
import RobotCombat.Fighter.Roster
import RobotCombat.Script.Interpreter
import RobotCombat.Tactics.Steering

namespace RobotCombat

set_option autoImplicit false

open Number
open Script (Action Facts)

/-- How long a fighter backs away before it charges. -/
def ramWindupMs : Float32 := 500

/-- How near a charge has to come to start a new cycle. -/
def ramResetDistance : Float32 := 80

/-- The way from a fighter to its opponent. -/
structure Approach where
  delta : Vector2
  distance : Float32
  heading : Float32
  toward : Vector2
  deriving DecidableEq, Repr

/-- The way between two points; to the right where they are the same. -/
def Approach.between (me enemy : Vector2) : Approach :=
  let delta := enemy - me
  let distance := delta.length
  ⟨delta, distance, Angle.ofVector delta, if 0 < distance then delta / distance else .right⟩

/-- The time spent in a ram cycle after one more decision to ram, and whether
that decision charges. -/
def ramCharge (spentMs dtMs distance : Float32) : Float32 × Bool :=
  let spent := spentMs + dtMs
  if spent < ramWindupMs then (spent, false)
  else if distance < ramResetDistance then (0, true)
  else (spent, true)

/-- The time spent in the ram cycle after a decision. -/
def ramSpent (action : Action) (spentMs dtMs distance : Float32) : Float32 :=
  match action with
  | .ram => (ramCharge spentMs dtMs distance).1
  | _ => spentMs

/-- Whether a fighter at a point heads for the center of the arena, and how. -/
def towardCenter (arena : Arena) (me : Vector2) : Steering :=
  let toCenter := arena.center - me
  ⟨if 10 < toCenter.length then toCenter.unitOrZero else .zero, Angle.ofVector toCenter, false⟩

/-- What an action asks for. -/
def actionSteering (action : Action) (way : Approach) (arena : Arena) (me : Vector2)
    (charging : Bool) : Steering :=
  let toward := way.toward
  match action with
  | .attack => ⟨toward, way.heading, way.distance < 100⟩
  | .retreat => ⟨-toward, way.heading + pi, false⟩
  | .circleLeft =>
    ⟨toward * (0.3 : Float32) + toward.turnLeft * (0.7 : Float32), way.heading, way.distance < 120⟩
  | .circleRight =>
    ⟨toward * (0.3 : Float32) - toward.turnLeft * (0.7 : Float32), way.heading, way.distance < 120⟩
  | .ram => ⟨if charging then toward * (1.5 : Float32) else -toward, way.heading, way.distance < 60⟩
  | .wait => ⟨.zero, way.heading, false⟩
  | .approach =>
    ⟨toward * (if 150 < way.distance then (1 : Float32) else 0.5), way.heading, way.distance < 100⟩
  | .fleeToCenter => towardCenter arena me
  | .flank =>
    if 100 < way.distance then
      ⟨Angle.toVector (way.heading + halfPi) * (0.7 : Float32) + toward * (0.3 : Float32),
        way.heading, false⟩
    else ⟨toward, way.heading, true⟩

/-- A fighter as another one sees it. -/
structure Combatant where
  state : FighterState
  stats : Stats
  hasSpinner : Bool
  deriving DecidableEq, Repr

namespace Combatant

/-- An entrant in the state it is in. -/
def of (e : Entrant) (s : FighterState) : Combatant :=
  ⟨s, e.stats, e.loadout.hasSpinner⟩

/-- Hit points in hundredths of their maximum. -/
def hpPercent (c : Combatant) : Float32 := c.state.hpFraction * 100

end Combatant

/-- What a script knows about a fighter, its opponent and the arena. -/
def factsOf (me enemy : Combatant) (arena : Arena) : Facts :=
  { distanceToEnemy := me.state.position.distance enemy.state.position
    myHp := me.state.hp
    myHpPercent := me.hpPercent
    enemyHp := enemy.state.hp
    enemyHpPercent := enemy.hpPercent
    mySpeed := me.stats.speed
    enemySpeed := enemy.stats.speed
    myWeight := me.stats.weight
    enemyWeight := enemy.stats.weight
    distanceToWall := arena.distanceToWall me.state.position
    distanceToCenter := me.state.position.distance arena.center
    enemyIsSpinning := enemy.hasSpinner }

end RobotCombat
