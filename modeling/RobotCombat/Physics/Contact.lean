/-
# RobotCombat.Physics.Contact — what touches what

A contact names a body, what it touches, whether they touched in the step before,
and a speed: of two fighters the relative speed before they bounced, of a wall
the speed of impact, of a sensor the speed of the body.
-/
import RobotCombat.Plane.Vector

namespace RobotCombat

set_option autoImplicit false

/-- A side of the arena. -/
inductive WallSide where
  | left
  | right
  | top
  | bottom
  deriving DecidableEq, Ord, Repr, Inhabited

namespace WallSide

def all : List WallSide := [.left, .right, .top, .bottom]

def tag : WallSide → String
  | .left => "left"
  | .right => "right"
  | .top => "top"
  | .bottom => "bottom"

def ofTag? (tag : String) : Option WallSide :=
  all.find? fun s => s.tag = tag

/-- The direction from a wall into the arena. -/
def inwardNormal : WallSide → Vector2
  | .left => .right
  | .right => .left
  | .top => .down
  | .bottom => .up

end WallSide

/-- What a body touches. Of two bodies the one with the higher place is named. Bodies come
before walls before sensors. -/
inductive Touched where
  | body (place : Nat)
  | wall (side : WallSide)
  | sensor (place : Nat)
  deriving DecidableEq, Ord, Repr, Inhabited

namespace Touched

def isBody : Touched → Bool
  | .body _ => true
  | _ => false

end Touched

/-- Whether a contact is new. -/
inductive Phase where
  | begun
  | persisting
  deriving DecidableEq, Repr, Inhabited

/-- One touching pair of a step. -/
structure Contact where
  body : Nat
  other : Touched
  phase : Phase
  speed : Float32
  deriving DecidableEq, Repr

namespace Contact

/-- Whether the pair did not touch in the step before. -/
def isNew (c : Contact) : Bool :=
  match c.phase with
  | .begun => true
  | .persisting => false

/-- The pair without phase and speed. -/
def pair (c : Contact) : Nat × Touched := (c.body, c.other)

end Contact

end RobotCombat
