/-
# RobotCombat.Tactics.Steering — where to go, where to look, whether to strike

A steering is what a behavior or an action asks for; an intent is a steering with
its direction brought to unit length, under the name it was chosen by.
-/
import RobotCombat.Plane.Angle

namespace RobotCombat

set_option autoImplicit false

/-- What a behavior asks for. -/
structure Steering where
  direction : Vector2
  facing : Float32
  attack : Bool
  deriving DecidableEq, Repr

namespace Steering

/-- Two steerings mixed by weight. Facings mix as unit vectors, and opposite ones
that cancel leave the first one's. Either one's attack is enough. -/
def blend (s t : Steering) (weight : Float32) : Steering :=
  let heading := Angle.toVector s.facing * weight + Angle.toVector t.facing * (1 - weight)
  { direction := s.direction * weight + t.direction * (1 - weight)
    facing := if (1e-8 : Float32) < heading.lengthSquared then Angle.ofVector heading else s.facing
    attack := s.attack || t.attack }

end Steering

/-- What a fighter sets out to do in a tick. -/
structure Intent where
  direction : Vector2
  facing : Float32
  attack : Bool
  label : String
  rule : Option Nat
  deriving DecidableEq, Repr

namespace Intent

/-- Nothing to do. -/
def idle : Intent := ⟨.zero, 0, false, "idle", none⟩

def ofSteering (s : Steering) (label : String) (rule : Option Nat) : Intent :=
  ⟨s.direction.unitOrZero, s.facing, s.attack, label, rule⟩

end Intent

end RobotCombat
