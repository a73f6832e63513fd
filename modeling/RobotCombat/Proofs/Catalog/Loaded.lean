/-
# RobotCombat.Proofs.Catalog.Loaded — a catalog that loads is fit to fight with

Decoded numbers are numbers, so an entry in which the check finds no defect has what the
defects are the lack of: positive hit points, radius and weight, cooldowns that are not
negative, and reductions between zero and one. Nothing is known about the other fields.

* `load_fit`: every entry of a catalog that loads is fit;
* `Fit.stats` and `Fit.mounted`: whatever a build names, its parts come to stats that a
  fight can be scored by, and its weapons are fit.
-/
import RobotCombat.Catalog.Exchange
import RobotCombat.Fighter.Loadout
import RobotCombat.Proofs.Catalog.Table
import RobotCombat.Proofs.Json.Fields
import RobotCombat.Proofs.Json.Numeral

namespace RobotCombat

set_option autoImplicit false

open Number
open Json (Record asSingle?)

/-! ## Decoded entries -/

theorem Json.Record.required_ne_nan {r : Record} {name : String} {x : Float32}
    (read : r.required name asSingle? = some x) : x ≠ .nan := by
  obtain ⟨j, decoded⟩ := decoded_of_required read
  exact asSingle?_ne_nan decoded

/-- The definitions of a decoded table came out of its decoder. -/
theorem Table.decoded_of_mem {α : Type} {decode : Json → Option α} {j : Json} {t : Table α}
    (read : Table.ofJson? decode j = some t) {entry : String × α} (member : entry ∈ t.entries) :
    ∃ j, decode j = some entry.2 := by
  unfold Table.ofJson? at read
  simp only [Option.bind_eq_bind, Option.bind_eq_some_iff, Option.pure_def, Option.some.injEq] at read
  obtain ⟨members, -, entries, decoded, rfl⟩ := read
  obtain ⟨m, -, given⟩ := Json.decoded_of_mem decoded (mem_of_mem_ofList member)
  obtain ⟨a, known, rfl⟩ := Option.map_eq_some_iff.mp given
  exact ⟨m.2, known⟩

/-- Where no entry of a table is invalid none has a defect. -/
theorem Catalog.defect_eq_none {α : Type} {table : String} {defect? : α → Option Defect}
    {t : Table α} (checked : firstInvalid? table defect? t = none) {entry : String × α}
    (member : entry ∈ t.entries) : defect? entry.2 = none := by
  have known := List.findSome?_eq_none_iff.mp checked entry member
  exact Option.map_eq_none_iff.mp known

/-! ## Fit entries -/

/-- A chassis that can carry a fighter. -/
structure Chassis.Fit (c : Chassis) : Prop where
  hitPoints : 0 < c.baseHp
  radius : 0 < c.radius
  weight : 0 < c.weight

/-- A weapon that is never ready before its time. -/
def Weapon.Fit (w : Weapon) : Prop := 0 ≤ w.cooldownMs

/-- Armor that neither adds to damage nor turns it around. -/
def Armor.Fit (a : Armor) : Prop := 0 ≤ a.damageReduction ∧ a.damageReduction ≤ 1

theorem Chassis.plain_fit : Chassis.plain.Fit := ⟨by decide, by decide, by decide⟩

theorem Chassis.fit_of_decoded {j : Json} {c : Chassis} (decoded : Chassis.ofJson? j = some c)
    (sound : Catalog.chassisDefect? c = none) : c.Fit := by
  unfold Chassis.ofJson? at decoded
  simp only [Option.bind_eq_bind, Option.bind_eq_some_iff, Option.pure_def, Option.some.injEq]
    at decoded
  obtain ⟨r, -, baseHp, hp, baseSpeed, -, weight, heavy, radius, wide, slots, -, rfl⟩ := decoded
  have positive : ∀ {x : Float32}, x ≠ .nan → ¬ x ≤ 0 → 0 < x :=
    fun number above => less_of_not_le number zero_ne_nan above
  unfold Catalog.chassisDefect? at sound
  split at sound
  · cases sound
  · split at sound
    · cases sound
    · split at sound
      · cases sound
      · exact
          { hitPoints := positive (Record.required_ne_nan hp) (by assumption)
            radius := positive (Record.required_ne_nan wide) (by assumption)
            weight := positive (Record.required_ne_nan heavy) (by assumption) }

theorem Weapon.fit_of_decoded {j : Json} {w : Weapon} (decoded : Weapon.ofJson? j = some w)
    (sound : Catalog.weaponDefect? w = none) : w.Fit := by
  unfold Weapon.ofJson? at decoded
  simp only [Option.bind_eq_bind, Option.bind_eq_some_iff, Option.pure_def, Option.some.injEq]
    at decoded
  obtain ⟨r, -, kind, -, baseDamage, -, weight, -, cooldownMs, cooldown, rfl⟩ := decoded
  unfold Catalog.weaponDefect? at sound
  split at sound
  · cases sound
  · rename_i notBelow
    exact le_of_not_less (Record.required_ne_nan cooldown) zero_ne_nan notBelow

theorem Armor.fit_of_sound {a : Armor} (sound : Catalog.armorDefect? a = none) : a.Fit := by
  unfold Catalog.armorDefect? at sound
  split at sound
  · assumption
  · cases sound

namespace Catalog

/-- A catalog with fit entries only. -/
structure Fit (c : Catalog) : Prop where
  chassis : ∀ entry ∈ c.chassis.entries, entry.2.Fit
  weapons : ∀ entry ∈ c.weapons.entries, entry.2.Fit
  armor : ∀ entry ∈ c.armor.entries, entry.2.Fit

theorem fit_of_decoded {j : Json} {c : Catalog} (decoded : ofJson? j = some c)
    (checked : c.check? = none) : c.Fit := by
  unfold ofJson? at decoded
  simp only [Option.bind_eq_bind, Option.bind_eq_some_iff, Option.pure_def, Option.some.injEq]
    at decoded
  obtain ⟨r, -, chassis, hulls, weapons, arms, armor, plates, arenas, -, rfl⟩ := decoded
  unfold check? at checked
  simp only [Option.orElse_eq_orElse, Option.orElse_eq_or, Option.or_eq_none_iff] at checked
  obtain ⟨hullsSound, armsSound, platesSound, -⟩ := checked
  constructor
  · intro entry member
    rcases Record.decoded_of_withDefault hulls with rfl | ⟨j, read⟩
    · cases member
    · obtain ⟨j, known⟩ := Table.decoded_of_mem read member
      exact Chassis.fit_of_decoded known (defect_eq_none hullsSound member)
  · intro entry member
    rcases Record.decoded_of_withDefault arms with rfl | ⟨j, read⟩
    · cases member
    · obtain ⟨j, known⟩ := Table.decoded_of_mem read member
      exact Weapon.fit_of_decoded known (defect_eq_none armsSound member)
  · exact fun entry member => Armor.fit_of_sound (defect_eq_none platesSound member)

/-- Every entry of a catalog that loads is fit. -/
theorem load_fit {text : String} {c : Catalog} (loaded : load text = .ok c) : c.Fit := by
  unfold load at loaded
  split at loaded
  · cases loaded
  · unfold ofDocument at loaded
    split at loaded
    · cases loaded
    · split at loaded
      · cases loaded
      · cases loaded
        exact fit_of_decoded (by assumption) (by assumption)

end Catalog

/-! ## Parts of a build -/

/-- The larger of anything and the smallest step above zero is positive. -/
theorem Number.larger_epsilon_positive (x : Float32) : 0 < larger x epsilon := by
  have step : 0 < epsilon := by decide
  unfold larger
  rw [if_neg (by decide)]
  split
  · rename_i above
    obtain ⟨-, -, low⟩ := (lt_iff_rank 0 epsilon).mp step
    obtain ⟨-, number, high⟩ := (lt_iff_rank epsilon x).mp above
    exact (lt_iff_rank 0 x).mpr ⟨zero_ne_nan, number, low.trans high⟩
  · exact step

/-- Stats that a fight can be scored by. A comparison says that its sides are numbers. -/
structure Stats.Fit (s : Stats) : Prop where
  maxHp : 0 < s.maxHp
  radius : 0 < s.radius
  weight : 0 < s.weight
  reduction : 0 ≤ s.damageReduction ∧ s.damageReduction ≤ 1

namespace Catalog.Fit

variable {c : Catalog}

theorem chassisOrFallback (fit : c.Fit) (id : String) : (c.chassisOrFallback id).Fit := by
  unfold Catalog.chassisOrFallback
  split
  · exact fit.chassis _ (Table.mem_of_find? (by assumption))
  · cases found : c.chassis.find? fallbackChassis with
    | none => exact Chassis.plain_fit
    | some chassis => exact fit.chassis _ (Table.mem_of_find? found)

/-- Whatever a build names, its parts come to fit stats. -/
theorem stats (fit : c.Fit) (b : Build) : (Loadout.resolve b c).stats.Fit where
  maxHp := (fit.chassisOrFallback b.chassisId).hitPoints
  radius := (fit.chassisOrFallback b.chassisId).radius
  weight := larger_epsilon_positive _
  reduction := by
    unfold Loadout.stats Loadout.resolve
    dsimp only
    split
    · rename_i a known
      obtain ⟨id, -, found⟩ := Option.bind_eq_some_iff.mp known
      have number : a.damageReduction ≠ .nan :=
        ne_nan_of_le_left (fit.armor _ (Table.mem_of_find? found)).2
      exact clamp_between number (by decide)
    · exact ⟨by decide, by decide⟩

/-- Whatever a build names, the weapons that it mounts are fit. -/
theorem mounted (fit : c.Fit) (b : Build) {m : Mounted}
    (member : m ∈ (Loadout.resolve b c).weapons) : m.weapon.Fit := by
  obtain ⟨id, -, found⟩ := List.mem_filterMap.mp member
  obtain ⟨w, known, rfl⟩ := Option.map_eq_some_iff.mp found
  exact fit.weapons (id, w) (Table.mem_of_find? known)

end Catalog.Fit

end RobotCombat
