/-
# RobotCombat.Catalog.Basic — the parts that a match can refer to

Looking up a chassis or an arena never fails: an unknown id stands for the
fallback entry, and where the catalog has none, for a plain one. Weapons and
armor with unknown ids are left out.

`check` refuses a catalog with an entry that cannot fight: the first such entry
in the order chassis, weapons, armor, arenas, and by id within each.
-/
import RobotCombat.Catalog.Part
import RobotCombat.Catalog.Table

namespace RobotCombat

set_option autoImplicit false

/-- Definitions of parts and arenas. -/
structure Catalog where
  chassis : Table Chassis
  weapons : Table Weapon
  armor : Table Armor
  arenas : Table Arena

namespace Catalog

def empty : Catalog := ⟨.empty, .empty, .empty, .empty⟩

/-- The chassis that stands for unknown ones. -/
def fallbackChassis : String := "brawler"

/-- The arena that stands for unknown ones. -/
def fallbackArena : String := "basicPit"

def chassisOrFallback (c : Catalog) (id : String) : Chassis :=
  match c.chassis.find? id with
  | some chassis => chassis
  | none => (c.chassis.find? fallbackChassis).getD .plain

def arenaOrFallback (c : Catalog) (id : String) : Arena :=
  match c.arenas.find? id with
  | some arena => arena
  | none => (c.arenas.find? fallbackArena).getD .plain

/-- Why an entry cannot fight. -/
inductive Defect where
  | noHitPoints
  | noRadius
  | noWeight
  | negativeCooldown
  | reductionOutOfRange
  | noFloor
  deriving DecidableEq, Repr

def Defect.reason : Defect → String
  | .noHitPoints => "base hp must be positive"
  | .noRadius => "radius must be positive"
  | .noWeight => "weight must be positive"
  | .negativeCooldown => "cooldown must not be negative"
  | .reductionOutOfRange => "damage reduction must lie in [0, 1]"
  | .noFloor => "walls leave no floor"

/-- An entry that cannot fight. -/
structure Invalid where
  table : String
  id : String
  defect : Defect
  deriving DecidableEq, Repr

def Invalid.message (e : Invalid) : String :=
  e.table ++ " entry '" ++ e.id ++ "': " ++ e.defect.reason

def chassisDefect? (c : Chassis) : Option Defect :=
  if c.baseHp ≤ 0 then some .noHitPoints
  else if c.radius ≤ 0 then some .noRadius
  else if c.weight ≤ 0 then some .noWeight
  else none

def weaponDefect? (w : Weapon) : Option Defect :=
  if w.cooldownMs < 0 then some .negativeCooldown else none

def armorDefect? (a : Armor) : Option Defect :=
  if 0 ≤ a.damageReduction ∧ a.damageReduction ≤ 1 then none else some .reductionOutOfRange

def arenaDefect? (a : Arena) : Option Defect :=
  if a.width ≤ 2 * a.wallThickness ∨ a.height ≤ 2 * a.wallThickness then some .noFloor else none

/-- The first entry of a table that has a defect. -/
def firstInvalid? {α : Type} (table : String) (defect? : α → Option Defect) (t : Table α) :
    Option Invalid :=
  t.entries.findSome? fun e => (defect? e.2).map fun d => ⟨table, e.1, d⟩

/-- The first entry of the catalog that cannot fight. -/
def check? (c : Catalog) : Option Invalid :=
  (firstInvalid? "chassis" chassisDefect? c.chassis)
    <|> (firstInvalid? "weapons" weaponDefect? c.weapons)
    <|> (firstInvalid? "armor" armorDefect? c.armor)
    <|> (firstInvalid? "arenas" arenaDefect? c.arenas)

end Catalog

end RobotCombat
