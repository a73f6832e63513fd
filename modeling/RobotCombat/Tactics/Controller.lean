/-
# RobotCombat.Tactics.Controller — from what a fighter sees to what it does

A preset controller has no memory. A scripted one remembers the time it has
spent in the current ram cycle and nothing else. A preset fighter idles without
a living opponent; a scripted one without any opponent, or once it is destroyed.
-/
import RobotCombat.Script.Parser
import RobotCombat.Tactics.Preset
import RobotCombat.Tactics.Scripted

namespace RobotCombat

set_option autoImplicit false

open Number
open Script (Program)

/-- What a controller may look at. -/
structure View where
  me : Combatant
  opponent : Option Combatant
  arena : Arena
  dtMs : Float32
  deriving DecidableEq, Repr

/-- A decision maker with its memory. -/
inductive Controller where
  | preset (tuning : Tuning)
  | scripted (program : Program) (ramSpentMs : Float32)
  deriving DecidableEq, Repr

namespace Controller

/-- The controller that a strategy asks for. Aggression is held between 0 and
100; a script keeps the rules of its good lines. -/
def ofStrategy : Strategy → Controller
  | .preset t => .preset (t.withAggression t.aggression)
  | .script source => .scripted (Script.parse source).program 0

/-- The decision of a preset tuning. -/
def presetIntent (t : Tuning) (view : View) : Intent :=
  match view.opponent with
  | none => .idle
  | some enemy =>
    if enemy.state.isAlive then .ofSteering (t.steer view.me.state enemy.state) t.primary.tag none
    else .idle

/-- The decision of a program, and the time spent in the ram cycle after it. -/
def scriptedIntent (p : Program) (spentMs : Float32) (view : View) : Intent × Float32 :=
  match view.opponent with
  | none => (.idle, spentMs)
  | some enemy =>
    if view.me.state.isAlive then
      let selection := p.select (factsOf view.me enemy view.arena)
      let me := view.me.state.position
      let way := Approach.between me enemy.state.position
      let charging := (ramCharge spentMs view.dtMs way.distance).2
      let steering := actionSteering selection.action way view.arena me charging
      (.ofSteering steering selection.action.name selection.rule,
        ramSpent selection.action spentMs view.dtMs way.distance)
    else (.idle, spentMs)

/-- One decision, and the controller after it. -/
def decide (c : Controller) (view : View) : Intent × Controller :=
  match c with
  | .preset t => (presetIntent t view, .preset t)
  | .scripted p spentMs =>
    let (intent, spentMs) := scriptedIntent p spentMs view
    (intent, .scripted p spentMs)

end Controller

end RobotCombat
