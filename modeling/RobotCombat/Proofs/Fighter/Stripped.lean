/-
# RobotCombat.Proofs.Fighter.Stripped — fighters without their labels

A fighter fights with its id, its parts and its strategy. Its name and color, the
words by which its parts were looked up and the engagement distance of a preset are
labels. `stripped` takes the labels off, and two builds are the `SameFighter` if they
differ in labels alone.

* `Build.SameFighter.entrant`: the same fighters enter alike.
-/
import RobotCombat.Fighter.Roster

namespace RobotCombat

set_option autoImplicit false

/-! ## Parts -/

/-- The weapon without the word it was found under. -/
def Mounted.stripped (m : Mounted) : Mounted := { m with id := "" }

namespace Loadout

/-- The parts without the words they were found under. -/
def stripped (l : Loadout) : Loadout := { l with weapons := l.weapons.map Mounted.stripped }

variable (l : Loadout)

theorem weaponWeight_stripped : l.stripped.weaponWeight = l.weaponWeight := by
  simp [weaponWeight, stripped, List.foldl_map, Mounted.stripped]

@[simp] theorem stats_stripped : l.stripped.stats = l.stats := by
  have weight : l.stripped.totalWeight = l.totalWeight := by
    unfold totalWeight
    rw [weaponWeight_stripped]
    rfl
  unfold stats
  rw [weight]
  rfl

@[simp] theorem hasSpinner_stripped : l.stripped.hasSpinner = l.hasSpinner := by
  simp [hasSpinner, stripped, Mounted.stripped, Function.comp_def]

end Loadout

/-! ## Builds -/

/-- The tuning without the distance that no behavior uses. -/
def Tuning.stripped (t : Tuning) : Tuning := { t with engagementDistance := 0 }

def Strategy.stripped : Strategy → Strategy
  | .preset t => .preset t.stripped
  | .script source => .script source

/-- The fighter without name, color and words for its parts. -/
def Build.stripped (b : Build) : Build := .bare b.id "" b.strategy.stripped

/-- Two builds that come to the same fighter: one id, one strategy, and the same
parts from the catalog of each, whatever words they go by. -/
structure Build.SameFighter (c c' : Catalog) (b b' : Build) : Prop where
  id : b.id = b'.id
  strategy : b.strategy.stripped = b'.strategy.stripped
  chassis : (Loadout.resolve b c).chassis = (Loadout.resolve b' c').chassis
  weapons : (Loadout.resolve b c).weapons.map (·.weapon) =
    (Loadout.resolve b' c').weapons.map (·.weapon)
  armor : (Loadout.resolve b c).armor = (Loadout.resolve b' c').armor

theorem Build.SameFighter.loadout {c c' : Catalog} {b b' : Build} (same : SameFighter c c' b b') :
    (Loadout.resolve b c).stripped = (Loadout.resolve b' c').stripped := by
  have unnamed : ∀ mounted : List Mounted,
      mounted.map Mounted.stripped = (mounted.map (·.weapon)).map (Mounted.mk "") := by
    intro mounted
    rw [List.map_map]
    rfl
  unfold Loadout.stripped
  rw [same.chassis, unnamed, same.weapons, ← unnamed, same.armor]

/-! ## Rosters -/

namespace Entrant

def stripped (e : Entrant) : Entrant :=
  { e with build := e.build.stripped, loadout := e.loadout.stripped }

@[simp] theorem id_stripped (e : Entrant) : e.stripped.id = e.id := rfl

@[simp] theorem stats_stripped (e : Entrant) : e.stripped.stats = e.stats := rfl

theorem spawnState_stripped (e : Entrant) : e.stripped.spawnState = e.spawnState := by
  have slots : e.loadout.stripped.weapons.map (fun _ => (0 : Float32)) =
      e.loadout.weapons.map fun _ => 0 := List.map_map
  have known : e.stripped.loadout = e.loadout.stripped := rfl
  unfold spawnState FighterState.spawn
  rw [known, Loadout.stats_stripped, slots]
  rfl

end Entrant

/-- The same fighters enter alike. -/
theorem Build.SameFighter.entrant {c c' : Catalog} {b b' : Build} (same : SameFighter c c' b b')
    (spawn : Vector2) : (Entrant.of b spawn c).stripped = (Entrant.of b' spawn c').stripped := by
  have stats : (Loadout.resolve b c).stats = (Loadout.resolve b' c').stats := by
    rw [← Loadout.stats_stripped, same.loadout, Loadout.stats_stripped]
  unfold Entrant.of Entrant.stripped Build.stripped
  simp only [same.id, same.strategy, same.loadout, stats]

namespace Roster

def stripped (r : Roster) : Roster := ⟨r.entrants.map Entrant.stripped⟩

variable (r : Roster)

@[simp] theorem get?_stripped (place : Nat) :
    r.stripped.get? place = (r.get? place).map Entrant.stripped :=
  List.getElem?_map

@[simp] theorem opponentOf?_stripped (place : Nat) :
    r.stripped.opponentOf? place = r.opponentOf? place := by
  simp [opponentOf?, size, stripped]

@[simp] theorem spawnStates_stripped : r.stripped.spawnStates = r.spawnStates := by
  simp [spawnStates, stripped, Function.comp_def, Entrant.spawnState_stripped]

end Roster

end RobotCombat
