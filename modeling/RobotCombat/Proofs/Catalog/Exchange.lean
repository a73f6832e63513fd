/-
# RobotCombat.Proofs.Catalog.Exchange — parts and catalogs come back from their documents

`Portable` says of a value that its numbers can be carried by text: every floating number
in it is exact and every count fits its field. Such a value is the one that is decoded
from its document. What is left out of a document (the rating of a hazard that has none)
comes back as the default of its field, and a table comes back because its entries are
written in the order of their ids.

* `Catalog.load_toJson`: a portable catalog whose entries can all fight is loaded from
  both texts of it.
-/
import RobotCombat.Catalog.Exchange
import RobotCombat.Proofs.Catalog.Table
import RobotCombat.Proofs.Json.Recovery

namespace RobotCombat

set_option autoImplicit false

open Json

namespace Vector2

@[mk_iff]
structure Portable (v : Vector2) : Prop where
  x : Exact v.x
  y : Exact v.y

instance (v : Vector2) : Decidable v.Portable := decidable_of_iff _ (portable_iff v).symm

@[simp]
theorem wellFormed_toJson (v : Vector2) : WellFormed v.toJson := by simp [toJson]

theorem ofJson?_toJson {v : Vector2} (portable : v.Portable) : ofJson? v.toJson = some v := by
  simp [ofJson?, toJson, asSingle?_single portable.x, asSingle?_single portable.y]

end Vector2

namespace Chassis

@[mk_iff]
structure Portable (c : Chassis) : Prop where
  baseHp : Exact c.baseHp
  baseSpeed : Exact c.baseSpeed
  weight : Exact c.weight
  radius : Exact c.radius
  weaponSlots : c.weaponSlots < UInt8.size

instance (c : Chassis) : Decidable c.Portable := decidable_of_iff _ (portable_iff c).symm

@[simp]
theorem wellFormed_toJson (c : Chassis) : WellFormed c.toJson := by simp [toJson]

theorem ofJson?_toJson {c : Chassis} (portable : c.Portable) : ofJson? c.toJson = some c := by
  rw [ofJson?, toJson, Record.read?_record]
  · simp [Record.required, asSingle?_single portable.baseHp, asSingle?_single portable.baseSpeed,
      asSingle?_single portable.weight, asSingle?_single portable.radius,
      asCount?_count (by decide) portable.weaponSlots]
  · exact .refl _
  · decide

end Chassis

namespace WeaponKind

@[simp]
theorem wellFormed_toJson (k : WeaponKind) : WellFormed k.toJson := by simp [toJson]

@[simp]
theorem ofJson?_toJson (k : WeaponKind) : ofJson? k.toJson = some k := by
  cases k <;> decide

end WeaponKind

namespace Weapon

@[mk_iff]
structure Portable (w : Weapon) : Prop where
  baseDamage : Exact w.baseDamage
  weight : Exact w.weight
  cooldownMs : Exact w.cooldownMs

instance (w : Weapon) : Decidable w.Portable := decidable_of_iff _ (portable_iff w).symm

@[simp]
theorem wellFormed_toJson (w : Weapon) : WellFormed w.toJson := by simp [toJson]

theorem ofJson?_toJson {w : Weapon} (portable : w.Portable) : ofJson? w.toJson = some w := by
  rw [ofJson?, toJson, Record.read?_record]
  · simp [Record.required, asSingle?_single portable.baseDamage, asSingle?_single portable.weight,
      asSingle?_single portable.cooldownMs]
  · exact .refl _
  · decide

end Weapon

namespace Armor

@[mk_iff]
structure Portable (a : Armor) : Prop where
  damageReduction : Exact a.damageReduction
  weight : Exact a.weight

instance (a : Armor) : Decidable a.Portable := decidable_of_iff _ (portable_iff a).symm

@[simp]
theorem wellFormed_toJson (a : Armor) : WellFormed a.toJson := by simp [toJson]

theorem ofJson?_toJson {a : Armor} (portable : a.Portable) : ofJson? a.toJson = some a := by
  rw [ofJson?, toJson, Record.read?_record]
  · simp [Record.required, asSingle?_single portable.damageReduction,
      asSingle?_single portable.weight]
  · exact .refl _
  · decide

end Armor

namespace HazardKind

@[simp]
theorem wellFormed_toJson (k : HazardKind) : WellFormed k.toJson := by simp [toJson]

@[simp]
theorem ofJson?_toJson (k : HazardKind) : ofJson? k.toJson = some k := by
  cases k <;> decide

end HazardKind

namespace Hazard

@[mk_iff]
structure Portable (h : Hazard) : Prop where
  position : h.position.Portable
  size : h.size.Portable
  damage : ∀ d ∈ h.damage, Exact d

instance (h : Hazard) : Decidable h.Portable := decidable_of_iff _ (portable_iff h).symm

@[simp]
theorem wellFormed_toJson (h : Hazard) : WellFormed h.toJson := by
  cases damage : h.damage <;> simp [toJson, damage]

theorem ofJson?_toJson {h : Hazard} (portable : h.Portable) : ofJson? h.toJson = some h := by
  obtain ⟨kind, position, size, damage⟩ := h
  have position := Vector2.ofJson?_toJson portable.position
  have size := Vector2.ofJson?_toJson portable.size
  cases damage with
  | none =>
      rw [ofJson?, toJson, Record.read?_record]
      · simp [Record.required, Record.withDefault, position, size]
      · exact List.sublist_append_left _ ["damage"]
      · decide
  | some d =>
      have damage := asOption?_of_decoded rfl (asSingle?_single (portable.damage d rfl))
      rw [ofJson?, toJson, Record.read?_record]
      · simp [Record.required, Record.withDefault, position, size, damage]
      · exact .refl _
      · decide

end Hazard

namespace Arena

@[mk_iff]
structure Portable (a : Arena) : Prop where
  width : Exact a.width
  height : Exact a.height
  wallThickness : Exact a.wallThickness
  hazards : ∀ h ∈ a.hazards, h.Portable

instance (a : Arena) : Decidable a.Portable := decidable_of_iff _ (portable_iff a).symm

@[simp]
theorem wellFormed_toJson (a : Arena) : WellFormed a.toJson := by simp [toJson]

theorem ofJson?_toJson {a : Arena} (portable : a.Portable) : ofJson? a.toJson = some a := by
  have hazards : asList? Hazard.ofJson? (list Hazard.toJson a.hazards) = some a.hazards :=
    asList?_list fun h member => Hazard.ofJson?_toJson (portable.hazards h member)
  rw [ofJson?, toJson, Record.read?_record]
  · simp [Record.required, Record.withDefault, asSingle?_single portable.width,
      asSingle?_single portable.height, asSingle?_single portable.wallThickness, hazards]
  · exact .refl _
  · decide

end Arena

namespace Table

variable {α : Type} {encode : α → Json} {decode : Json → Option α}

theorem wellFormed_toJson (each : ∀ a, WellFormed (encode a)) (t : Table α) :
    WellFormed (t.toJson encode) := by
  rw [toJson, wellFormed_record_iff, List.forall_mem_map]
  exact fun e _ => each e.2

theorem ofJson?_toJson {t : Table α} (each : ∀ e ∈ t.entries, decode (encode e.2) = some e.2) :
    ofJson? decode (t.toJson encode) = some t := by
  have entries : (t.entries.map fun e => (e.1, encode e.2)).mapM
      (fun m => (decode m.2).map fun a => (m.1, a)) = some t.entries := by
    rw [mapM_eq_some_iff, List.forall₂_map_left_iff, List.forall₂_same]
    intro e member
    rw [each e member]
    rfl
  simp [ofJson?, toJson, asMembers?_record, entries, ofList_entries]

end Table

namespace Catalog

@[mk_iff]
structure Portable (c : Catalog) : Prop where
  chassis : ∀ e ∈ c.chassis.entries, e.2.Portable
  weapons : ∀ e ∈ c.weapons.entries, e.2.Portable
  armor : ∀ e ∈ c.armor.entries, e.2.Portable
  arenas : ∀ e ∈ c.arenas.entries, e.2.Portable

instance (c : Catalog) : Decidable c.Portable := decidable_of_iff _ (portable_iff c).symm

@[simp]
theorem wellFormed_toJson (c : Catalog) : WellFormed c.toJson := by
  simp [toJson, Table.wellFormed_toJson]

variable {c : Catalog}

theorem ofJson?_toJson (portable : c.Portable) : ofJson? c.toJson = some c := by
  have chassis : Table.ofJson? Chassis.ofJson? (c.chassis.toJson Chassis.toJson) = some c.chassis :=
    Table.ofJson?_toJson fun e member => Chassis.ofJson?_toJson (portable.chassis e member)
  have weapons : Table.ofJson? Weapon.ofJson? (c.weapons.toJson Weapon.toJson) = some c.weapons :=
    Table.ofJson?_toJson fun e member => Weapon.ofJson?_toJson (portable.weapons e member)
  have armor : Table.ofJson? Armor.ofJson? (c.armor.toJson Armor.toJson) = some c.armor :=
    Table.ofJson?_toJson fun e member => Armor.ofJson?_toJson (portable.armor e member)
  have arenas : Table.ofJson? Arena.ofJson? (c.arenas.toJson Arena.toJson) = some c.arenas :=
    Table.ofJson?_toJson fun e member => Arena.ofJson?_toJson (portable.arenas e member)
  rw [ofJson?, toJson, Record.read?_record]
  · simp [Record.withDefault, chassis, weapons, armor, arenas]
  · exact .refl _
  · decide

/-- A portable catalog whose entries can all fight is loaded from its text. -/
theorem load_toJson (portable : c.Portable) (valid : c.check? = none) :
    load (compact c.toJson) = .ok c ∧ load (pretty c.toJson) = .ok c := by
  have loaded : ofDocument c.toJson = .ok c := by
    rw [ofDocument, ofJson?_toJson portable]
    dsimp only
    rw [valid]
  unfold load
  rw [parse?_compact (wellFormed_toJson c), parse?_pretty (wellFormed_toJson c)]
  exact ⟨loaded, loaded⟩

end Catalog

end RobotCombat
