/-
# RobotCombat.Damage.Event — one application of damage
-/
import RobotCombat.Catalog.Part

namespace RobotCombat

set_option autoImplicit false

/-- What dealt damage. -/
inductive Cause where
  | weapon (kind : WeaponKind)
  | collision
  | wall
  | pit
  | spikes
  deriving DecidableEq, Repr, Inhabited

namespace Cause

def tag : Cause → String
  | .weapon kind => kind.tag
  | .collision => "collision"
  | .wall => "wall"
  | .pit => "pit"
  | .spikes => "spikes"

def all : List Cause :=
  WeaponKind.all.map .weapon ++ [.collision, .wall, .pit, .spikes]

def ofTag? (tag : String) : Option Cause :=
  all.find? fun c => c.tag = tag

end Cause

/-- Damage after armor, to whom and by whom; the arena is nobody. -/
structure DamageEvent where
  attacker : Option String
  target : String
  damage : Float32
  cause : Cause
  timestamp : Float32
  deriving DecidableEq, Repr

end RobotCombat
