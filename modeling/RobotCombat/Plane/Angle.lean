/-
# RobotCombat.Plane.Angle — headings

The only use of the circular functions. A heading is an angle in radians;
`wrap` brings it into one turn around zero.
-/
import RobotCombat.Plane.Vector

namespace RobotCombat.Angle

set_option autoImplicit false

open Number

/-- The unit vector of a heading. -/
def toVector (angle : Float32) : Vector2 := ⟨angle.cos, angle.sin⟩

/-- The heading of a vector. -/
def ofVector (v : Vector2) : Float32 := Float32.atan2 v.y v.x

/-- The same heading between minus half a turn and half a turn. -/
def wrap (angle : Float32) : Float32 := Float32.atan2 angle.sin angle.cos

end RobotCombat.Angle
