/-
# RobotCombat.Proofs.Match.Exchange — configurations and records come back from their
documents

* `MatchConfig.ofJson?_toJson`: a portable configuration is the one that is decoded from
  its document;
* `MatchResult.ofJson?_toJson`: so is the portable record of a match, with a history of
  frames and without.
-/
import RobotCombat.Match.Exchange
import RobotCombat.Proofs.Fighter.Exchange

namespace RobotCombat

set_option autoImplicit false

open Json

namespace PhysicsSettings

@[mk_iff]
structure Portable (p : PhysicsSettings) : Prop where
  forcePerSpeed : Exact p.forcePerSpeed
  airFriction : Exact p.airFriction
  restitution : Exact p.restitution
  turnRate : Exact p.turnRate
  maxSpeed : Exact p.maxSpeed

instance (p : PhysicsSettings) : Decidable p.Portable := decidable_of_iff _ (portable_iff p).symm

@[simp]
theorem wellFormed_toJson (p : PhysicsSettings) : WellFormed p.toJson := by simp [toJson]

theorem ofJson?_toJson {p : PhysicsSettings} (portable : p.Portable) :
    ofJson? p.toJson = some p := by
  rw [ofJson?, toJson, Record.read?_record]
  · simp [Record.withDefault, asSingle?_single portable.forcePerSpeed,
      asSingle?_single portable.airFriction, asSingle?_single portable.restitution,
      asSingle?_single portable.turnRate, asSingle?_single portable.maxSpeed]
  · exact .refl _
  · decide

end PhysicsSettings

namespace NarrationSettings

@[mk_iff]
structure Portable (n : NarrationSettings) : Prop where
  bigHitThreshold : Exact n.bigHitThreshold
  bigHitWindowMs : Exact n.bigHitWindowMs
  bigHitFollowUp : ExactDouble n.bigHitFollowUp
  wallSlamThreshold : Exact n.wallSlamThreshold
  wallSlamWindowMs : Exact n.wallSlamWindowMs
  wallSlamFollowUp : ExactDouble n.wallSlamFollowUp
  banterLullMs : Exact n.banterLullMs
  banterEarliestMs : Exact n.banterEarliestMs
  banterChance : ExactDouble n.banterChance
  banterRollIntervalMs : Exact n.banterRollIntervalMs
  banterCap : n.banterCap < UInt32.size

instance (n : NarrationSettings) : Decidable n.Portable :=
  decidable_of_iff _ (portable_iff n).symm

@[simp]
theorem wellFormed_toJson (n : NarrationSettings) : WellFormed n.toJson := by simp [toJson]

theorem ofJson?_toJson {n : NarrationSettings} (portable : n.Portable) :
    ofJson? n.toJson = some n := by
  rw [ofJson?, toJson, Record.read?_record]
  · simp [Record.withDefault, asSingle?_single portable.bigHitThreshold,
      asSingle?_single portable.bigHitWindowMs, asDouble?_double portable.bigHitFollowUp,
      asSingle?_single portable.wallSlamThreshold, asSingle?_single portable.wallSlamWindowMs,
      asDouble?_double portable.wallSlamFollowUp, asSingle?_single portable.banterLullMs,
      asSingle?_single portable.banterEarliestMs, asDouble?_double portable.banterChance,
      asSingle?_single portable.banterRollIntervalMs,
      asCount?_count (by decide) portable.banterCap]
  · exact .refl _
  · decide

end NarrationSettings

namespace Pacing

@[simp]
theorem wellFormed_toJson (p : Pacing) : WellFormed p.toJson := by simp [toJson]

@[simp]
theorem ofJson?_toJson (p : Pacing) : ofJson? p.toJson = some p := by
  cases p <;> decide

end Pacing

namespace MatchConfig

@[mk_iff]
structure Portable (c : MatchConfig) : Prop where
  tickMs : Exact c.tickMs
  maxDurationMs : Exact c.maxDurationMs
  firstSpawn : c.spawnFractions.1.Portable
  secondSpawn : c.spawnFractions.2.Portable
  physics : c.physics.Portable
  narration : c.narration.Portable

instance (c : MatchConfig) : Decidable c.Portable := decidable_of_iff _ (portable_iff c).symm

@[simp]
theorem wellFormed_toJson (c : MatchConfig) : WellFormed c.toJson := by simp [toJson]

/-- Every seed fits its field. -/
@[simp]
theorem asSeed?_count (seed : UInt64) : asSeed? (count seed.toNat) = some seed := by
  rw [asSeed?, asCount?_count le_rfl seed.toNat_lt, Option.map_some, UInt64.ofNat_toNat]

theorem ofJson?_toJson {c : MatchConfig} (portable : c.Portable) : ofJson? c.toJson = some c := by
  have spawns : asSpawns? (.array [c.spawnFractions.1.toJson, c.spawnFractions.2.toJson]) =
      some c.spawnFractions := by
    simp [asSpawns?, Vector2.ofJson?_toJson portable.firstSpawn,
      Vector2.ofJson?_toJson portable.secondSpawn]
  rw [ofJson?, toJson, Record.read?_record]
  · simp [Record.withDefault, asSingle?_single portable.tickMs,
      asSingle?_single portable.maxDurationMs, spawns,
      PhysicsSettings.ofJson?_toJson portable.physics,
      NarrationSettings.ofJson?_toJson portable.narration]
  · exact .refl _
  · decide

end MatchConfig

namespace Cause

@[simp]
theorem wellFormed_toJson (c : Cause) : WellFormed c.toJson := by simp [toJson]

/-- No weapon is named like another cause of damage. -/
@[simp]
theorem ofJson?_toJson (c : Cause) : ofJson? c.toJson = some c := by
  cases c with
  | weapon kind => cases kind <;> decide
  | _ => decide

end Cause

namespace DamageEvent

@[mk_iff]
structure Portable (e : DamageEvent) : Prop where
  damage : Exact e.damage
  timestamp : Exact e.timestamp

instance (e : DamageEvent) : Decidable e.Portable := decidable_of_iff _ (portable_iff e).symm

@[simp]
theorem wellFormed_toJson (e : DamageEvent) : WellFormed e.toJson := by
  simp [toJson, wellFormed_orNull]

theorem ofJson?_toJson {e : DamageEvent} (portable : e.Portable) : ofJson? e.toJson = some e := by
  have attacker : asOption? asText? (orNull text e.attacker) = some e.attacker :=
    asOption?_orNull rfl fun id _ => asText?_text id
  rw [ofJson?, toJson, Record.read?_record]
  · simp [Record.required, Record.optional, attacker, asSingle?_single portable.damage,
      asSingle?_single portable.timestamp]
  · exact .refl _
  · decide

end DamageEvent

namespace Occasion

@[simp]
theorem wellFormed_toJson (o : Occasion) : WellFormed o.toJson := by simp [toJson]

@[simp]
theorem ofJson?_toJson (o : Occasion) : ofJson? o.toJson = some o := by
  cases o <;> decide

end Occasion

namespace Speaker

@[simp]
theorem wellFormed_toJson (s : Speaker) : WellFormed s.toJson := by simp [toJson]

@[simp]
theorem ofJson?_toJson (s : Speaker) : ofJson? s.toJson = some s := by
  cases s <;> decide

end Speaker

namespace Line

@[mk_iff]
structure Portable (l : Line) : Prop where
  timestamp : l.timestamp < UInt64.size
  excitement : l.excitement < UInt8.size

instance (l : Line) : Decidable l.Portable := decidable_of_iff _ (portable_iff l).symm

@[simp]
theorem wellFormed_toJson (l : Line) : WellFormed l.toJson := by simp [toJson]

theorem ofJson?_toJson {l : Line} (portable : l.Portable) : ofJson? l.toJson = some l := by
  rw [ofJson?, toJson, Record.read?_record]
  · simp [Record.required, asCount?_count le_rfl portable.timestamp,
      asCount?_count (by decide) portable.excitement]
  · exact .refl _
  · decide

end Line

namespace Frame

@[mk_iff]
structure Portable (f : Frame) : Prop where
  tick : f.tick < UInt64.size
  timestamp : Exact f.timestamp
  fighters : ∀ s ∈ f.fighters, s.Portable
  damage : ∀ e ∈ f.damage, e.Portable

instance (f : Frame) : Decidable f.Portable := decidable_of_iff _ (portable_iff f).symm

@[simp]
theorem wellFormed_toJson (f : Frame) : WellFormed f.toJson := by simp [toJson]

theorem ofJson?_toJson {f : Frame} (portable : f.Portable) : ofJson? f.toJson = some f := by
  have fighters : asList? FighterState.ofJson? (list FighterState.toJson f.fighters) =
      some f.fighters :=
    asList?_list fun s member => FighterState.ofJson?_toJson (portable.fighters s member)
  have damage : asList? DamageEvent.ofJson? (list DamageEvent.toJson f.damage) = some f.damage :=
    asList?_list fun e member => DamageEvent.ofJson?_toJson (portable.damage e member)
  rw [ofJson?, toJson, Record.read?_record]
  · simp [Record.required, asCount?_count le_rfl portable.tick,
      asSingle?_single portable.timestamp, fighters, damage]
  · exact .refl _
  · decide

end Frame

namespace FinalState

@[mk_iff]
structure Portable (s : FinalState) : Prop where
  hp : Exact s.hp
  maxHp : Exact s.maxHp
  position : s.position.Portable

instance (s : FinalState) : Decidable s.Portable := decidable_of_iff _ (portable_iff s).symm

@[simp]
theorem wellFormed_toJson (s : FinalState) : WellFormed s.toJson := by simp [toJson]

theorem ofJson?_toJson {s : FinalState} (portable : s.Portable) : ofJson? s.toJson = some s := by
  rw [ofJson?, toJson, Record.read?_record]
  · simp [Record.required, asSingle?_single portable.hp, asSingle?_single portable.maxHp,
      Vector2.ofJson?_toJson portable.position]
  · exact .refl _
  · decide

end FinalState

namespace MatchResult

@[mk_iff]
structure Portable (m : MatchResult) : Prop where
  duration : Exact m.duration
  frameCount : m.frameCount < UInt64.size
  finalStates : ∀ s ∈ m.finalStates, s.Portable
  damageLog : ∀ e ∈ m.damageLog, e.Portable
  commentary : ∀ l ∈ m.commentary, l.Portable
  frames : ∀ f ∈ m.frames, f.Portable

instance (m : MatchResult) : Decidable m.Portable := decidable_of_iff _ (portable_iff m).symm

@[simp]
theorem wellFormed_toJson (m : MatchResult) : WellFormed m.toJson := by
  cases frames : m.frames <;> simp [toJson, wellFormed_orNull, frames]

theorem ofJson?_toJson {m : MatchResult} (portable : m.Portable) : ofJson? m.toJson = some m := by
  obtain ⟨winner, duration, frameCount, finalStates, damageLog, commentary, timedOut, frames⟩ := m
  have winner : asOption? asText? (orNull text winner) = some winner :=
    asOption?_orNull rfl fun id _ => asText?_text id
  have finalStates : asList? FinalState.ofJson? (list FinalState.toJson finalStates) =
      some finalStates :=
    asList?_list fun s member => FinalState.ofJson?_toJson (portable.finalStates s member)
  have damageLog : asList? DamageEvent.ofJson? (list DamageEvent.toJson damageLog) =
      some damageLog :=
    asList?_list fun e member => DamageEvent.ofJson?_toJson (portable.damageLog e member)
  have commentary : asList? Line.ofJson? (list Line.toJson commentary) = some commentary :=
    asList?_list fun l member => Line.ofJson?_toJson (portable.commentary l member)
  have duration := asSingle?_single portable.duration
  have frameCount := asCount?_count le_rfl portable.frameCount
  cases frames with
  | nil =>
      rw [ofJson?, toJson, Record.read?_record]
      · simp [Record.required, Record.optional, Record.withDefault, winner, duration, frameCount,
          finalStates, damageLog, commentary]
      · exact List.sublist_append_left _ ["frames"]
      · decide
  | cons frame frames =>
      have history : asList? Frame.ofJson? (list Frame.toJson (frame :: frames)) =
          some (frame :: frames) :=
        asList?_list fun f member => Frame.ofJson?_toJson (portable.frames f member)
      rw [ofJson?, toJson, Record.read?_record]
      · simp [Record.required, Record.optional, Record.withDefault, winner, duration, frameCount,
          finalStates, damageLog, commentary, history]
      · exact .refl _
      · decide

end MatchResult

end RobotCombat
