/-
# RobotCombat.Tactics.Preset — the five preset behaviors

Each behavior is a function of the two fighters as they stand and of a level of
aggression between 0 and 100.
-/
import RobotCombat.Fighter.State
import RobotCombat.Tactics.Steering

namespace RobotCombat

set_option autoImplicit false

open Number

/-- The speed of an opponent above which a reactive fighter sidesteps. -/
def dodgeSpeed : Float32 := 3

/-- The weight of the first of two blended behaviors. -/
def primaryWeight : Float32 := 0.7

namespace Behavior

/-- Hold a distance that shrinks with aggression, and circle there. -/
def defensiveDirection (toTarget toward : Vector2) (distance level : Float32) : Vector2 :=
  let preferred := 150 - level * 100
  if distance < preferred then -toward
  else if preferred + 50 < distance then toward * (0.5 : Float32)
  else toTarget.turnLeft.unitOrZero

/-- Circle, and cut in more the higher the aggression. -/
def flankerDirection (toTarget toward : Vector2) (distance level : Float32) : Vector2 :=
  let sideways := toTarget.turnLeft.unitOrZero
  if 100 < distance then toward * (0.5 : Float32) + sideways * (0.5 : Float32)
  else sideways * (0.7 : Float32) + toward * level * (0.5 : Float32)

/-- Sidestep an opponent that is fast, else come closer. -/
def reactiveDirection (toTarget toward : Vector2) (them : FighterState) (level : Float32) :
    Vector2 :=
  if dodgeSpeed < them.speed then
    let dodge := them.velocity.turnLeft.unitOrZero
    (dodge * (0.6 : Float32) + toTarget * (0.4 : Float32)).unitOrZero
  else toward * ((0.5 : Float32) + level * 0.5)

/-- What a behavior asks for. -/
def steer (b : Behavior) (me them : FighterState) (aggression : Float32) : Steering :=
  let toTarget := them.position - me.position
  let distance := toTarget.length
  let toward := toTarget.unitOrZero
  let level := aggression / 100
  { direction := match b with
      | .aggressive => toward
      | .defensive => defensiveDirection toTarget toward distance level
      | .flanker => flankerDirection toTarget toward distance level
      | .ram => toward
      | .reactive => reactiveDirection toTarget toward them level
    facing := Angle.ofVector toTarget
    attack := match b with
      | .aggressive => distance < 50 + level * 50
      | .defensive => distance < 80
      | .flanker => distance < 60
      | .ram => distance < 40
      | .reactive => distance < 70 }

end Behavior

namespace Tuning

/-- The blended steering of a tuning. The second behavior runs at half the
aggression. -/
def steer (t : Tuning) (me them : FighterState) : Steering :=
  let first := t.primary.steer me them t.aggression
  match t.secondary with
  | none => first
  | some second => first.blend (second.steer me them (t.aggression * 0.5)) primaryWeight

end Tuning

end RobotCombat
