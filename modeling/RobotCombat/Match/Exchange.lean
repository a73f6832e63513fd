/-
# RobotCombat.Match.Exchange — configurations and records as documents
-/
import RobotCombat.Fighter.Exchange
import RobotCombat.Match.Series

namespace RobotCombat

set_option autoImplicit false

open Json (Record asText? asBool? asSingle? asDouble? asCount? asList? asOption? asChoice?)

namespace PhysicsSettings

def fields : List String :=
  ["force_per_speed", "air_friction", "restitution", "turn_rate", "max_speed"]

def toJson (p : PhysicsSettings) : Json :=
  .record [("force_per_speed", .single p.forcePerSpeed), ("air_friction", .single p.airFriction),
    ("restitution", .single p.restitution), ("turn_rate", .single p.turnRate),
    ("max_speed", .single p.maxSpeed)]

def ofJson? (j : Json) : Option PhysicsSettings := do
  let r ← Record.read? fields j
  let forcePerSpeed ← r.withDefault "force_per_speed" asSingle? usual.forcePerSpeed
  let airFriction ← r.withDefault "air_friction" asSingle? usual.airFriction
  let restitution ← r.withDefault "restitution" asSingle? usual.restitution
  let turnRate ← r.withDefault "turn_rate" asSingle? usual.turnRate
  let maxSpeed ← r.withDefault "max_speed" asSingle? usual.maxSpeed
  pure ⟨forcePerSpeed, airFriction, restitution, turnRate, maxSpeed⟩

end PhysicsSettings

namespace NarrationSettings

def fields : List String :=
  ["bigHitThreshold", "bigHitWindowMs", "bigHitFollowUp", "wallSlamThreshold", "wallSlamWindowMs",
    "wallSlamFollowUp", "banterLullMs", "banterEarliestMs", "banterChance",
    "banterRollIntervalMs", "banterCap"]

def toJson (n : NarrationSettings) : Json :=
  .record [("bigHitThreshold", .single n.bigHitThreshold),
    ("bigHitWindowMs", .single n.bigHitWindowMs), ("bigHitFollowUp", .double n.bigHitFollowUp),
    ("wallSlamThreshold", .single n.wallSlamThreshold),
    ("wallSlamWindowMs", .single n.wallSlamWindowMs),
    ("wallSlamFollowUp", .double n.wallSlamFollowUp), ("banterLullMs", .single n.banterLullMs),
    ("banterEarliestMs", .single n.banterEarliestMs), ("banterChance", .double n.banterChance),
    ("banterRollIntervalMs", .single n.banterRollIntervalMs), ("banterCap", .count n.banterCap)]

def ofJson? (j : Json) : Option NarrationSettings := do
  let d := broadcast
  let r ← Record.read? fields j
  let bigHitThreshold ← r.withDefault "bigHitThreshold" asSingle? d.bigHitThreshold
  let bigHitWindowMs ← r.withDefault "bigHitWindowMs" asSingle? d.bigHitWindowMs
  let bigHitFollowUp ← r.withDefault "bigHitFollowUp" asDouble? d.bigHitFollowUp
  let wallSlamThreshold ← r.withDefault "wallSlamThreshold" asSingle? d.wallSlamThreshold
  let wallSlamWindowMs ← r.withDefault "wallSlamWindowMs" asSingle? d.wallSlamWindowMs
  let wallSlamFollowUp ← r.withDefault "wallSlamFollowUp" asDouble? d.wallSlamFollowUp
  let banterLullMs ← r.withDefault "banterLullMs" asSingle? d.banterLullMs
  let banterEarliestMs ← r.withDefault "banterEarliestMs" asSingle? d.banterEarliestMs
  let banterChance ← r.withDefault "banterChance" asDouble? d.banterChance
  let banterRollIntervalMs ← r.withDefault "banterRollIntervalMs" asSingle? d.banterRollIntervalMs
  let banterCap ← r.withDefault "banterCap" (asCount? UInt32.size) d.banterCap
  pure ⟨bigHitThreshold, bigHitWindowMs, bigHitFollowUp, wallSlamThreshold, wallSlamWindowMs,
    wallSlamFollowUp, banterLullMs, banterEarliestMs, banterChance, banterRollIntervalMs,
    banterCap⟩

end NarrationSettings

namespace Pacing

def toJson (p : Pacing) : Json := .text p.tag

def ofJson? (j : Json) : Option Pacing := (asChoice? j).bind ofTag?

end Pacing

namespace MatchConfig

def fields : List String :=
  ["tickMs", "maxDurationMs", "seed", "spawnFractions", "recordFrames", "physics", "commentary",
    "mode"]

/-- A 64-bit seed. -/
def asSeed? (j : Json) : Option UInt64 :=
  (asCount? UInt64.size j).map UInt64.ofNat

/-- Two spawn points. -/
def asSpawns? : Json → Option (Vector2 × Vector2)
  | .array [a, b] => do pure (← Vector2.ofJson? a, ← Vector2.ofJson? b)
  | _ => none

def toJson (c : MatchConfig) : Json :=
  .record [("tickMs", .single c.tickMs), ("maxDurationMs", .single c.maxDurationMs),
    ("seed", .count c.seed.toNat),
    ("spawnFractions", .array [c.spawnFractions.1.toJson, c.spawnFractions.2.toJson]),
    ("recordFrames", .bool c.recordFrames), ("physics", c.physics.toJson),
    ("commentary", c.narration.toJson), ("mode", c.pacing.toJson)]

def ofJson? (j : Json) : Option MatchConfig := do
  let d := usual
  let r ← Record.read? fields j
  let tickMs ← r.withDefault "tickMs" asSingle? d.tickMs
  let maxDurationMs ← r.withDefault "maxDurationMs" asSingle? d.maxDurationMs
  let seed ← r.withDefault "seed" asSeed? d.seed
  let spawnFractions ← r.withDefault "spawnFractions" asSpawns? d.spawnFractions
  let recordFrames ← r.withDefault "recordFrames" asBool? d.recordFrames
  let physics ← r.withDefault "physics" PhysicsSettings.ofJson? d.physics
  let narration ← r.withDefault "commentary" NarrationSettings.ofJson? d.narration
  let pacing ← r.withDefault "mode" Pacing.ofJson? d.pacing
  pure ⟨tickMs, maxDurationMs, seed, spawnFractions, recordFrames, physics, narration, pacing⟩

end MatchConfig

namespace Cause

def toJson (c : Cause) : Json := .text c.tag

def ofJson? (j : Json) : Option Cause := (asChoice? j).bind ofTag?

end Cause

namespace DamageEvent

def fields : List String := ["attackerId", "targetId", "damage", "weaponType", "timestamp"]

def toJson (e : DamageEvent) : Json :=
  .record [("attackerId", .orNull .text e.attacker), ("targetId", .text e.target),
    ("damage", .single e.damage), ("weaponType", e.cause.toJson),
    ("timestamp", .single e.timestamp)]

def ofJson? (j : Json) : Option DamageEvent := do
  let r ← Record.read? fields j
  let attacker ← r.optional "attackerId" asText?
  let target ← r.required "targetId" asText?
  let damage ← r.required "damage" asSingle?
  let cause ← r.required "weaponType" Cause.ofJson?
  let timestamp ← r.required "timestamp" asSingle?
  pure ⟨attacker, target, damage, cause, timestamp⟩

end DamageEvent

namespace Occasion

def toJson (o : Occasion) : Json := .text o.tag

def ofJson? (j : Json) : Option Occasion := (asChoice? j).bind ofTag?

end Occasion

namespace Speaker

def toJson (s : Speaker) : Json := .text s.tag

def ofJson? (j : Json) : Option Speaker := (asChoice? j).bind ofTag?

end Speaker

namespace Line

def fields : List String := ["timestamp", "type", "message", "speaker", "excitement"]

def toJson (l : Line) : Json :=
  .record [("timestamp", .count l.timestamp), ("type", l.occasion.toJson),
    ("message", .text l.message), ("speaker", l.speaker.toJson),
    ("excitement", .count l.excitement)]

def ofJson? (j : Json) : Option Line := do
  let r ← Record.read? fields j
  let timestamp ← r.required "timestamp" (asCount? UInt64.size)
  let occasion ← r.required "type" Occasion.ofJson?
  let message ← r.required "message" asText?
  let speaker ← r.required "speaker" Speaker.ofJson?
  let excitement ← r.required "excitement" (asCount? UInt8.size)
  pure ⟨timestamp, occasion, message, speaker, excitement⟩

end Line

namespace Frame

def fields : List String := ["tick", "timestamp", "fighters", "damage"]

def toJson (f : Frame) : Json :=
  .record [("tick", .count f.tick), ("timestamp", .single f.timestamp),
    ("fighters", .list FighterState.toJson f.fighters),
    ("damage", .list DamageEvent.toJson f.damage)]

def ofJson? (j : Json) : Option Frame := do
  let r ← Record.read? fields j
  let tick ← r.required "tick" (asCount? UInt64.size)
  let timestamp ← r.required "timestamp" asSingle?
  let fighters ← r.required "fighters" (asList? FighterState.ofJson?)
  let damage ← r.required "damage" (asList? DamageEvent.ofJson?)
  pure ⟨tick, timestamp, fighters, damage⟩

end Frame

namespace FinalState

def fields : List String := ["id", "hp", "maxHp", "isAlive", "position", "finalAction"]

def toJson (s : FinalState) : Json :=
  .record [("id", .text s.id), ("hp", .single s.hp), ("maxHp", .single s.maxHp),
    ("isAlive", .bool s.isAlive), ("position", s.position.toJson),
    ("finalAction", .text s.finalAction)]

def ofJson? (j : Json) : Option FinalState := do
  let r ← Record.read? fields j
  let id ← r.required "id" asText?
  let hp ← r.required "hp" asSingle?
  let maxHp ← r.required "maxHp" asSingle?
  let isAlive ← r.required "isAlive" asBool?
  let position ← r.required "position" Vector2.ofJson?
  let finalAction ← r.required "finalAction" asText?
  pure ⟨id, hp, maxHp, isAlive, position, finalAction⟩

end FinalState

namespace MatchResult

def fields : List String :=
  ["winner", "duration", "frameCount", "finalStates", "damageLog", "commentary", "timedOut",
    "frames"]

/-- A history without frames is left out. -/
def toJson (m : MatchResult) : Json :=
  .record ([("winner", .orNull .text m.winner), ("duration", .single m.duration),
    ("frameCount", .count m.frameCount), ("finalStates", .list FinalState.toJson m.finalStates),
    ("damageLog", .list DamageEvent.toJson m.damageLog),
    ("commentary", .list Line.toJson m.commentary), ("timedOut", .bool m.timedOut)]
    ++ if m.frames.isEmpty then [] else [("frames", .list Frame.toJson m.frames)])

def ofJson? (j : Json) : Option MatchResult := do
  let r ← Record.read? fields j
  let winner ← r.optional "winner" asText?
  let duration ← r.required "duration" asSingle?
  let frameCount ← r.required "frameCount" (asCount? UInt64.size)
  let finalStates ← r.required "finalStates" (asList? FinalState.ofJson?)
  let damageLog ← r.required "damageLog" (asList? DamageEvent.ofJson?)
  let commentary ← r.required "commentary" (asList? Line.ofJson?)
  let timedOut ← r.required "timedOut" asBool?
  let frames ← r.withDefault "frames" (asList? Frame.ofJson?) []
  pure ⟨winner, duration, frameCount, finalStates, damageLog, commentary, timedOut, frames⟩

end MatchResult

namespace SeriesSummary

def fields : List String := ["runs", "firstSeed", "wins", "draws", "timeouts", "meanDurationMs"]

def toJson (s : SeriesSummary) : Json :=
  .record [("runs", .count s.runs), ("firstSeed", .count s.firstSeed.toNat),
    ("wins", s.wins.toJson .count), ("draws", .count s.draws), ("timeouts", .count s.timeouts),
    ("meanDurationMs", .single s.meanDurationMs)]

def ofJson? (j : Json) : Option SeriesSummary := do
  let r ← Record.read? fields j
  let runs ← r.required "runs" (asCount? UInt64.size)
  let firstSeed ← r.required "firstSeed" MatchConfig.asSeed?
  let wins ← r.required "wins" (Table.ofJson? (asCount? UInt64.size))
  let draws ← r.required "draws" (asCount? UInt64.size)
  let timeouts ← r.required "timeouts" (asCount? UInt64.size)
  let meanDurationMs ← r.required "meanDurationMs" asSingle?
  pure ⟨runs, firstSeed, wins, draws, timeouts, meanDurationMs⟩

end SeriesSummary

end RobotCombat
