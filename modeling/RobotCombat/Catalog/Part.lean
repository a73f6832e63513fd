/-
# RobotCombat.Catalog.Part — chassis, weapons, armor and arenas
-/
import RobotCombat.Plane.Vector

namespace RobotCombat

set_option autoImplicit false

open Number

/-- The body of a fighter. -/
structure Chassis where
  baseHp : Float32
  baseSpeed : Float32
  weight : Float32
  radius : Float32
  weaponSlots : Nat
  deriving DecidableEq, Repr

/-- The chassis of last resort. -/
def Chassis.plain : Chassis := ⟨100, 5, 100, 35, 2⟩

/-- The damage rule that a weapon follows. -/
inductive WeaponKind where
  | spinner
  | flipper
  | hammer
  | saw
  | wedge
  | flamethrower
  | emp
  | grapple
  | drill
  | plasma
  deriving DecidableEq, Repr, Inhabited

namespace WeaponKind

def all : List WeaponKind :=
  [.spinner, .flipper, .hammer, .saw, .wedge, .flamethrower, .emp, .grapple, .drill, .plasma]

def tag : WeaponKind → String
  | .spinner => "spinner"
  | .flipper => "flipper"
  | .hammer => "hammer"
  | .saw => "saw"
  | .wedge => "wedge"
  | .flamethrower => "flamethrower"
  | .emp => "emp"
  | .grapple => "grapple"
  | .drill => "drill"
  | .plasma => "plasma"

def ofTag? (tag : String) : Option WeaponKind :=
  all.find? fun k => k.tag = tag

/-- Whether the weapon hurts on every tick of contact. -/
def isContinuous : WeaponKind → Bool
  | .spinner => true
  | _ => false

end WeaponKind

/-- A weapon that can be mounted. A cooldown of zero is no cooldown. -/
structure Weapon where
  kind : WeaponKind
  baseDamage : Float32
  weight : Float32
  cooldownMs : Float32
  deriving DecidableEq, Repr

/-- Plating that takes up a part of every hit. -/
structure Armor where
  damageReduction : Float32
  weight : Float32
  deriving DecidableEq, Repr

/-- What a zone of the floor does. -/
inductive HazardKind where
  | pit
  | spike
  deriving DecidableEq, Repr, Inhabited

namespace HazardKind

def all : List HazardKind := [.pit, .spike]

def tag : HazardKind → String
  | .pit => "pit"
  | .spike => "spike"

def ofTag? (tag : String) : Option HazardKind :=
  all.find? fun k => k.tag = tag

end HazardKind

/-- A rectangular zone of the floor, placed by its center. -/
structure Hazard where
  kind : HazardKind
  position : Vector2
  size : Vector2
  damage : Option Float32
  deriving DecidableEq, Repr

/-- Whether a circle reaches into the zone. -/
def Hazard.overlapsCircle (h : Hazard) (center : Vector2) (radius : Float32) : Bool :=
  let half := h.size * (0.5 : Float32)
  let near := center.clamp (h.position - half) (h.position + half)
  near.distanceSquared center ≤ radius * radius

/-- A walled floor. Width and height include the walls. -/
structure Arena where
  width : Float32
  height : Float32
  wallThickness : Float32
  hazards : List Hazard
  deriving DecidableEq, Repr

namespace Arena

/-- The arena of last resort. -/
def plain : Arena := ⟨800, 600, 20, []⟩

def size (a : Arena) : Vector2 := ⟨a.width, a.height⟩

def center (a : Arena) : Vector2 := ⟨a.width * 0.5, a.height * 0.5⟩

/-- The distance from a point to the nearest outer edge. -/
def distanceToWall (a : Arena) (p : Vector2) : Float32 :=
  smaller (smaller (smaller p.x (a.width - p.x)) p.y) (a.height - p.y)

end Arena

end RobotCombat
