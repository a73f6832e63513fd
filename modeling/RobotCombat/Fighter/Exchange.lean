/-
# RobotCombat.Fighter.Exchange — builds and fighter states as documents
-/
import RobotCombat.Catalog.Exchange
import RobotCombat.Fighter.Roster

namespace RobotCombat

set_option autoImplicit false

open Json (Record asText? asSingle? asCount? asList? asOption? asChoice? asTagged?)
open Number

namespace Behavior

def toJson (b : Behavior) : Json := .text b.tag

def ofJson? (j : Json) : Option Behavior := (asChoice? j).bind ofTag?

end Behavior

namespace Tuning

def fields : List String :=
  ["primaryBehavior", "secondaryBehavior", "aggression", "engagementDistance"]

def toJson (t : Tuning) : Json :=
  .record [("primaryBehavior", t.primary.toJson),
    ("secondaryBehavior", .orNull Behavior.toJson t.secondary),
    ("aggression", .single t.aggression), ("engagementDistance", .single t.engagementDistance)]

/-- Aggression is brought between 0 and 100. -/
def ofJson? (j : Json) : Option Tuning := do
  let r ← Record.read? fields j
  let primary ← r.required "primaryBehavior" Behavior.ofJson?
  let secondary ← r.withDefault "secondaryBehavior" (asOption? Behavior.ofJson?) none
  let aggression ← r.withDefault "aggression" (fun j => (asSingle? j).map fun x => clamp x 0 100) 50
  let engagementDistance ← r.withDefault "engagementDistance" asSingle? 100
  pure ⟨primary, secondary, aggression, engagementDistance⟩

end Tuning

namespace Strategy

def toJson : Strategy → Json
  | .preset t => .record [("ai", t.toJson)]
  | .script source => .record [("script", .text source)]

def ofJson? (j : Json) : Option Strategy :=
  match asTagged? j with
  | some (key, value) =>
    if key = "ai" then (Tuning.ofJson? value).map .preset
    else if key = "script" then (asText? value).map .script
    else none
  | none => none

end Strategy

namespace Build

def fields : List String :=
  ["id", "name", "chassisId", "weaponIds", "armorId", "color", "strategy"]

def toJson (b : Build) : Json :=
  .record [("id", .text b.id), ("name", .text b.name), ("chassisId", .text b.chassisId),
    ("weaponIds", .list .text b.weaponIds), ("armorId", .orNull .text b.armorId),
    ("color", .text b.color), ("strategy", b.strategy.toJson)]

def ofJson? (j : Json) : Option Build := do
  let r ← Record.read? fields j
  let id ← r.required "id" asText?
  let name ← r.withDefault "name" asText? ""
  let chassisId ← r.required "chassisId" asText?
  let weaponIds ← r.withDefault "weaponIds" (asList? asText?) []
  let armorId ← r.withDefault "armorId" (asOption? asText?) none
  let color ← r.withDefault "color" asText? ""
  let strategy ← r.withDefault "strategy" Strategy.ofJson? .usual
  pure ⟨id, name, chassisId, weaponIds, armorId, color, strategy⟩

end Build

namespace Mounted

def toJson (m : Mounted) : Json :=
  .record [("id", .text m.id), ("def", m.weapon.toJson)]

end Mounted

namespace Loadout

def toJson (l : Loadout) : Json :=
  .record [("chassis", l.chassis.toJson), ("weapons", .list Mounted.toJson l.weapons),
    ("armor", .orNull Armor.toJson l.armor)]

end Loadout

namespace Stats

def toJson (s : Stats) : Json :=
  .record [("maxHp", .single s.maxHp), ("speed", .single s.speed), ("weight", .single s.weight),
    ("damageReduction", .single s.damageReduction), ("radius", .single s.radius)]

end Stats

namespace Status

def toJson (s : Status) : Json := .text s.text

def ofJson? (j : Json) : Option Status := (asText? j).bind ofText?

end Status

namespace FighterState

def fields : List String :=
  ["id", "position", "velocity", "angle", "hp", "maxHp", "status", "weaponCooldowns",
    "currentAction", "matchedRule"]

def toJson (s : FighterState) : Json :=
  .record [("id", .text s.id), ("position", s.position.toJson), ("velocity", s.velocity.toJson),
    ("angle", .single s.angle), ("hp", .single s.hp), ("maxHp", .single s.maxHp),
    ("status", s.status.toJson), ("weaponCooldowns", .list .single s.cooldowns),
    ("currentAction", .text s.action), ("matchedRule", .orNull .count s.rule)]

def ofJson? (j : Json) : Option FighterState := do
  let r ← Record.read? fields j
  let id ← r.required "id" asText?
  let position ← r.required "position" Vector2.ofJson?
  let velocity ← r.required "velocity" Vector2.ofJson?
  let angle ← r.required "angle" asSingle?
  let hp ← r.required "hp" asSingle?
  let maxHp ← r.required "maxHp" asSingle?
  let status ← r.required "status" Status.ofJson?
  let cooldowns ← r.required "weaponCooldowns" (asList? asSingle?)
  let action ← r.required "currentAction" asText?
  let rule ← r.optional "matchedRule" (asCount? UInt64.size)
  pure ⟨id, position, velocity, angle, hp, maxHp, status, cooldowns, action, rule⟩

end FighterState

end RobotCombat
