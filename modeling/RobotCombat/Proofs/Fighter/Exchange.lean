/-
# RobotCombat.Proofs.Fighter.Exchange — builds and fighter states come back from their
documents

* `Build.ofJson?_toJson`: a portable build is the one that is decoded from its document if
  its aggression lies between 0 and 100. The decoder brings aggression there, so another
  one does not come back;
* `FighterState.ofJson?_toJson`: so is the portable state of a fighter, its marks written
  as text.
-/
import RobotCombat.Fighter.Exchange
import RobotCombat.Proofs.Catalog.Exchange
import RobotCombat.Proofs.Fighter.Status
import RobotCombat.Proofs.Number.Order

namespace RobotCombat

set_option autoImplicit false

open Json Number

namespace Behavior

@[simp]
theorem wellFormed_toJson (b : Behavior) : WellFormed b.toJson := by simp [toJson]

@[simp]
theorem ofJson?_toJson (b : Behavior) : ofJson? b.toJson = some b := by
  cases b <;> decide

end Behavior

namespace Tuning

@[mk_iff]
structure Portable (t : Tuning) : Prop where
  aggression : Exact t.aggression
  engagementDistance : Exact t.engagementDistance

instance (t : Tuning) : Decidable t.Portable := decidable_of_iff _ (portable_iff t).symm

@[simp]
theorem wellFormed_toJson (t : Tuning) : WellFormed t.toJson := by
  simp [toJson, wellFormed_orNull]

theorem ofJson?_toJson {t : Tuning} (portable : t.Portable) (low : 0 ≤ t.aggression)
    (high : t.aggression ≤ 100) : ofJson? t.toJson = some t := by
  have secondary : asOption? Behavior.ofJson? (orNull Behavior.toJson t.secondary) =
      some t.secondary := asOption?_orNull rfl fun b _ => Behavior.ofJson?_toJson b
  rw [ofJson?, toJson, Record.read?_record]
  · simp [Record.required, Record.withDefault, secondary, asSingle?_single portable.aggression,
      asSingle?_single portable.engagementDistance, clamp_of_mem low high]
  · exact .refl _
  · decide

end Tuning

namespace Strategy

def Portable : Strategy → Prop
  | .preset t => t.Portable
  | .script _ => True

instance : ∀ s : Strategy, Decidable s.Portable
  | .preset t => inferInstanceAs (Decidable t.Portable)
  | .script _ => inferInstanceAs (Decidable True)

@[simp]
theorem wellFormed_toJson (s : Strategy) : WellFormed s.toJson := by
  cases s <;> simp [toJson]

theorem ofJson?_toJson {s : Strategy} (portable : s.Portable)
    (range : ∀ t, s = .preset t → 0 ≤ t.aggression ∧ t.aggression ≤ 100) :
    ofJson? s.toJson = some s := by
  cases s with
  | preset t =>
      obtain ⟨low, high⟩ := range t rfl
      simp [ofJson?, toJson, Tuning.ofJson?_toJson portable low high]
  | script source => simp [ofJson?, toJson]

end Strategy

namespace Build

@[mk_iff]
structure Portable (b : Build) : Prop where
  strategy : b.strategy.Portable

instance (b : Build) : Decidable b.Portable := decidable_of_iff _ (portable_iff b).symm

@[simp]
theorem wellFormed_toJson (b : Build) : WellFormed b.toJson := by
  simp [toJson, wellFormed_orNull]

theorem ofJson?_toJson {b : Build} (portable : b.Portable)
    (range : ∀ t, b.strategy = .preset t → 0 ≤ t.aggression ∧ t.aggression ≤ 100) :
    ofJson? b.toJson = some b := by
  have weaponIds : asList? asText? (list text b.weaponIds) = some b.weaponIds :=
    asList?_list fun id _ => asText?_text id
  have armorId : asOption? asText? (orNull text b.armorId) = some b.armorId :=
    asOption?_orNull rfl fun id _ => asText?_text id
  have strategy := Strategy.ofJson?_toJson portable.strategy range
  rw [ofJson?, toJson, Record.read?_record]
  · simp [Record.required, Record.withDefault, weaponIds, armorId, strategy]
  · exact .refl _
  · decide

end Build

namespace Status

@[simp]
theorem wellFormed_toJson (s : Status) : WellFormed s.toJson := by simp [toJson]

@[simp]
theorem ofJson?_toJson (s : Status) : ofJson? s.toJson = some s := by
  simp [ofJson?, toJson, ofText?_text]

end Status

namespace FighterState

@[mk_iff]
structure Portable (s : FighterState) : Prop where
  position : s.position.Portable
  velocity : s.velocity.Portable
  angle : Exact s.angle
  hp : Exact s.hp
  maxHp : Exact s.maxHp
  cooldowns : ∀ cooldown ∈ s.cooldowns, Exact cooldown
  rule : ∀ rule ∈ s.rule, rule < UInt64.size

instance (s : FighterState) : Decidable s.Portable := decidable_of_iff _ (portable_iff s).symm

@[simp]
theorem wellFormed_toJson (s : FighterState) : WellFormed s.toJson := by
  simp [toJson, wellFormed_orNull]

theorem ofJson?_toJson {s : FighterState} (portable : s.Portable) :
    ofJson? s.toJson = some s := by
  have cooldowns : asList? asSingle? (list single s.cooldowns) = some s.cooldowns :=
    asList?_list fun cooldown member => asSingle?_single (portable.cooldowns cooldown member)
  have rule : asOption? (asCount? UInt64.size) (orNull count s.rule) = some s.rule :=
    asOption?_orNull rfl fun rule given => asCount?_count le_rfl (portable.rule rule given)
  rw [ofJson?, toJson, Record.read?_record]
  · simp [Record.required, Record.optional, Vector2.ofJson?_toJson portable.position,
      Vector2.ofJson?_toJson portable.velocity, asSingle?_single portable.angle,
      asSingle?_single portable.hp, asSingle?_single portable.maxHp, cooldowns, rule]
  · exact .refl _
  · decide

end FighterState

end RobotCombat
