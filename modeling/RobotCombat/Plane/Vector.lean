/-
# RobotCombat.Plane.Vector — points and directions of the arena floor

Arithmetic is componentwise in 32-bit numbers, in the order written. `unit?`
gives the direction of a vector if its length has a positive finite reciprocal;
`limitLength` shortens a vector to a given length and leaves a shorter one as it
is.
-/
import RobotCombat.Number.Single

namespace RobotCombat

set_option autoImplicit false

open Number

/-- A point or a direction. The second axis points down the arena. -/
structure Vector2 where
  x : Float32
  y : Float32
  deriving DecidableEq, Repr, Inhabited

namespace Vector2

def zero : Vector2 := ⟨0, 0⟩
def right : Vector2 := ⟨1, 0⟩
def left : Vector2 := ⟨-1, 0⟩
def down : Vector2 := ⟨0, 1⟩
def up : Vector2 := ⟨0, -1⟩

instance : Add Vector2 := ⟨fun v w => ⟨v.x + w.x, v.y + w.y⟩⟩
instance : Sub Vector2 := ⟨fun v w => ⟨v.x - w.x, v.y - w.y⟩⟩
instance : Neg Vector2 := ⟨fun v => ⟨-v.x, -v.y⟩⟩
instance : HMul Vector2 Float32 Vector2 := ⟨fun v s => ⟨v.x * s, v.y * s⟩⟩
instance : HDiv Vector2 Float32 Vector2 := ⟨fun v s => ⟨v.x / s, v.y / s⟩⟩

/-- The product component by component. -/
def scaleBy (v w : Vector2) : Vector2 := ⟨v.x * w.x, v.y * w.y⟩

def dot (v w : Vector2) : Float32 := v.x * w.x + v.y * w.y

def lengthSquared (v : Vector2) : Float32 := v.dot v

def length (v : Vector2) : Float32 := v.lengthSquared.sqrt

def distance (v w : Vector2) : Float32 := (v - w).length

def distanceSquared (v w : Vector2) : Float32 := (v - w).lengthSquared

/-- Both components without their sign. -/
def abs (v : Vector2) : Vector2 := ⟨v.x.abs, v.y.abs⟩

/-- The vector turned a quarter to the left of its heading. -/
def turnLeft (v : Vector2) : Vector2 := ⟨-v.y, v.x⟩

/-- The nearest point of the rectangle between two corners. -/
def clamp (v low high : Vector2) : Vector2 :=
  ⟨smaller (larger v.x low.x) high.x, smaller (larger v.y low.y) high.y⟩

/-- The direction of a vector, if its length has a positive finite reciprocal. -/
def unit? (v : Vector2) : Option Vector2 :=
  let reciprocal := 1 / v.length
  if reciprocal.isFinite ∧ 0 < reciprocal then some (v * reciprocal) else none

/-- The direction of a vector, or zero if it has none. -/
def unitOrZero (v : Vector2) : Vector2 := v.unit?.getD zero

/-- The vector shortened to a length if it is longer. -/
def limitLength (v : Vector2) (limit : Float32) : Vector2 :=
  let squared := v.lengthSquared
  if limit * limit < squared then (v / squared.sqrt) * limit else v

end Vector2

end RobotCombat
