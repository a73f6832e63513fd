/-
# RobotCombat.Catalog.Exchange — parts and catalogs as documents

`Catalog.load` reads a whole catalog: four optional maps from ids to
definitions, an id given twice keeping its last definition. A document that does
not decode is told apart from one with an entry that cannot fight.
-/
import RobotCombat.Catalog.Basic
import RobotCombat.Json.Field
import RobotCombat.Json.Reader

namespace RobotCombat

set_option autoImplicit false

open Json (Record asSingle? asCount? asList? asOption? asChoice?)

def Vector2.toJson (v : Vector2) : Json := .array [.single v.x, .single v.y]

def Vector2.ofJson? : Json → Option Vector2
  | .array [x, y] => do pure ⟨← asSingle? x, ← asSingle? y⟩
  | _ => none

namespace Chassis

def fields : List String := ["baseHp", "baseSpeed", "weight", "radius", "weaponSlots"]

def toJson (c : Chassis) : Json :=
  .record [("baseHp", .single c.baseHp), ("baseSpeed", .single c.baseSpeed),
    ("weight", .single c.weight), ("radius", .single c.radius),
    ("weaponSlots", .count c.weaponSlots)]

def ofJson? (j : Json) : Option Chassis := do
  let r ← Record.read? fields j
  let baseHp ← r.required "baseHp" asSingle?
  let baseSpeed ← r.required "baseSpeed" asSingle?
  let weight ← r.required "weight" asSingle?
  let radius ← r.required "radius" asSingle?
  let weaponSlots ← r.required "weaponSlots" (asCount? UInt8.size)
  pure ⟨baseHp, baseSpeed, weight, radius, weaponSlots⟩

end Chassis

namespace WeaponKind

def toJson (k : WeaponKind) : Json := .text k.tag

def ofJson? (j : Json) : Option WeaponKind := (asChoice? j).bind ofTag?

end WeaponKind

namespace Weapon

def fields : List String := ["type", "baseDamage", "weight", "cooldownMs"]

def toJson (w : Weapon) : Json :=
  .record [("type", w.kind.toJson), ("baseDamage", .single w.baseDamage),
    ("weight", .single w.weight), ("cooldownMs", .single w.cooldownMs)]

def ofJson? (j : Json) : Option Weapon := do
  let r ← Record.read? fields j
  let kind ← r.required "type" WeaponKind.ofJson?
  let baseDamage ← r.required "baseDamage" asSingle?
  let weight ← r.required "weight" asSingle?
  let cooldownMs ← r.required "cooldownMs" asSingle?
  pure ⟨kind, baseDamage, weight, cooldownMs⟩

end Weapon

namespace Armor

def fields : List String := ["damageReduction", "weight"]

def toJson (a : Armor) : Json :=
  .record [("damageReduction", .single a.damageReduction), ("weight", .single a.weight)]

def ofJson? (j : Json) : Option Armor := do
  let r ← Record.read? fields j
  let damageReduction ← r.required "damageReduction" asSingle?
  let weight ← r.required "weight" asSingle?
  pure ⟨damageReduction, weight⟩

end Armor

namespace HazardKind

def toJson (k : HazardKind) : Json := .text k.tag

def ofJson? (j : Json) : Option HazardKind := (asChoice? j).bind ofTag?

end HazardKind

namespace Hazard

def fields : List String := ["type", "position", "size", "damage"]

/-- A rating that is not set is left out. -/
def toJson (h : Hazard) : Json :=
  .record ([("type", h.kind.toJson), ("position", h.position.toJson), ("size", h.size.toJson)]
    ++ match h.damage with
      | some d => [("damage", .single d)]
      | none => [])

def ofJson? (j : Json) : Option Hazard := do
  let r ← Record.read? fields j
  let kind ← r.required "type" HazardKind.ofJson?
  let position ← r.required "position" Vector2.ofJson?
  let size ← r.required "size" Vector2.ofJson?
  let damage ← r.withDefault "damage" (asOption? asSingle?) none
  pure ⟨kind, position, size, damage⟩

end Hazard

namespace Arena

def fields : List String := ["width", "height", "wallThickness", "hazards"]

def toJson (a : Arena) : Json :=
  .record [("width", .single a.width), ("height", .single a.height),
    ("wallThickness", .single a.wallThickness), ("hazards", .list Hazard.toJson a.hazards)]

def ofJson? (j : Json) : Option Arena := do
  let r ← Record.read? fields j
  let width ← r.required "width" asSingle?
  let height ← r.required "height" asSingle?
  let wallThickness ← r.required "wallThickness" asSingle?
  let hazards ← r.withDefault "hazards" (asList? Hazard.ofJson?) []
  pure ⟨width, height, wallThickness, hazards⟩

end Arena

namespace Table

variable {α : Type}

def toJson (encode : α → Json) (t : Table α) : Json :=
  .record (t.entries.map fun e => (e.1, encode e.2))

def ofJson? (decode : Json → Option α) (j : Json) : Option (Table α) := do
  let members ← Json.asMembers? j
  let entries ← members.mapM fun m => (decode m.2).map fun a => (m.1, a)
  pure (ofList entries)

end Table

namespace Catalog

def fields : List String := ["chassis", "weapons", "armor", "arenas"]

def toJson (c : Catalog) : Json :=
  .record [("chassis", c.chassis.toJson Chassis.toJson),
    ("weapons", c.weapons.toJson Weapon.toJson), ("armor", c.armor.toJson Armor.toJson),
    ("arenas", c.arenas.toJson Arena.toJson)]

def ofJson? (j : Json) : Option Catalog := do
  let r ← Record.read? fields j
  let chassis ← r.withDefault "chassis" (Table.ofJson? Chassis.ofJson?) .empty
  let weapons ← r.withDefault "weapons" (Table.ofJson? Weapon.ofJson?) .empty
  let armor ← r.withDefault "armor" (Table.ofJson? Armor.ofJson?) .empty
  let arenas ← r.withDefault "arenas" (Table.ofJson? Arena.ofJson?) .empty
  pure ⟨chassis, weapons, armor, arenas⟩

/-- Why a catalog is not loaded. -/
inductive LoadError where
  | undecodable
  | invalid (entry : Invalid)
  deriving DecidableEq, Repr

/-- A decoded catalog whose entries can all fight. -/
def ofDocument (j : Json) : Except LoadError Catalog :=
  match ofJson? j with
  | none => .error .undecodable
  | some c =>
    match c.check? with
    | some entry => .error (.invalid entry)
    | none => .ok c

/-- Loads a catalog from text. -/
def load (text : String) : Except LoadError Catalog :=
  match Json.parse? text with
  | none => .error .undecodable
  | some j => ofDocument j

end Catalog

end RobotCombat
