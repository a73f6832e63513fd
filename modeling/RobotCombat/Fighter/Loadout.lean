/-
# RobotCombat.Fighter.Loadout — the parts of a build, and the stats they give

Heavier fighters are slower: the effective speed is the chassis speed at a total
weight of 100, in inverse proportion to the weight.
-/
import RobotCombat.Catalog.Basic
import RobotCombat.Fighter.Build

namespace RobotCombat

set_option autoImplicit false

open Number

/-- A weapon on a fighter, with the id it was found under. -/
structure Mounted where
  id : String
  weapon : Weapon
  deriving DecidableEq, Repr

/-- The parts of a fighter. -/
structure Loadout where
  chassis : Chassis
  weapons : List Mounted
  armor : Option Armor
  deriving DecidableEq, Repr

/-- What the parts come to in a match. -/
structure Stats where
  maxHp : Float32
  speed : Float32
  weight : Float32
  damageReduction : Float32
  radius : Float32
  deriving DecidableEq, Repr

namespace Loadout

/-- Finds the parts of a build. Weapons and armor that the catalog does not know
are left out. -/
def resolve (b : Build) (c : Catalog) : Loadout :=
  ⟨c.chassisOrFallback b.chassisId,
    b.weaponIds.filterMap fun id => (c.weapons.find? id).map fun w => ⟨id, w⟩,
    b.armorId.bind c.armor.find?⟩

/-- The weight of the weapons, summed in order from negative zero. -/
def weaponWeight (l : Loadout) : Float32 :=
  l.weapons.foldl (fun sum m => sum + m.weapon.weight) (-0.0)

def totalWeight (l : Loadout) : Float32 :=
  l.chassis.weight + l.weaponWeight + (match l.armor with | some a => a.weight | none => 0)

/-- A weight that is not positive counts as the smallest step above zero. -/
def stats (l : Loadout) : Stats :=
  let weight := larger l.totalWeight epsilon
  { maxHp := l.chassis.baseHp
    speed := l.chassis.baseSpeed * (100 / weight)
    weight := weight
    damageReduction := match l.armor with | some a => clamp a.damageReduction 0 1 | none => 0
    radius := l.chassis.radius }

/-- Whether a weapon hurts on every tick of contact. -/
def hasSpinner (l : Loadout) : Bool :=
  l.weapons.any fun m => m.weapon.kind.isContinuous

end Loadout

/-- Damage that gets through armor, never negative. -/
def armorReduced (raw reduction : Float32) : Float32 :=
  larger (raw * (1 - clamp reduction 0 1)) 0

end RobotCombat
