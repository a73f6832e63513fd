/-
# RobotCombat.Proofs.Damage.Stripped — damage is no matter of labels

The rules of damage look at ids, stats and weapons of the entrants, and at nothing
that `Roster.stripped` takes off, so they rule alike on a scene without labels
(`ofContacts_stripped`).
-/
import RobotCombat.Damage.Hazards
import RobotCombat.Proofs.Fighter.Stripped

namespace RobotCombat

set_option autoImplicit false

def Scene.stripped (scene : Scene) : Scene := { scene with roster := scene.roster.stripped }

variable (scene : Scene)

@[simp] theorem Scene.get?_stripped (place : Nat) :
    scene.stripped.roster.get? place = (scene.roster.get? place).map Entrant.stripped :=
  scene.roster.get?_stripped place

theorem Ruling.hit_stripped (attacker : Option Nat) (target : Nat) (raw : Float32) (cause : Cause)
    (r : Ruling) :
    r.hit scene.stripped attacker target raw cause = r.hit scene attacker target raw cause := by
  have ids : (attacker.bind scene.stripped.roster.get?).map Entrant.id =
      (attacker.bind scene.roster.get?).map Entrant.id := by
    cases attacker <;> simp [Function.comp_def]
  unfold hit
  rw [ids, Scene.get?_stripped]
  cases scene.roster.get? target <;> cases r.states[target]? <;> rfl

namespace Combat

variable (me them : FighterState)

theorem blow_stripped (speed : Float32) (weapons : List Mounted) :
    ∀ (slot : Nat) (b : Blow),
      blow me speed slot b (weapons.map Mounted.stripped) = blow me speed slot b weapons := by
  induction weapons with
  | nil => intro slot b; rfl
  | cons m weapons ih => intro slot b; exact ih _ _

theorem triggered_stripped (weapons : List Mounted) :
    ∀ slot : Nat, triggered me slot (weapons.map Mounted.stripped) = triggered me slot weapons := by
  induction weapons with
  | nil => intro slot; rfl
  | cons m weapons ih => intro slot; simp [triggered, ih, Mounted.stripped]

theorem kick_stripped : kick scene.stripped me them = kick scene me them := rfl

theorem kicks_stripped (place : Nat) (weapons : List Mounted) :
    ∀ slot : Nat, kicks scene.stripped me them place slot (weapons.map Mounted.stripped) =
      kicks scene me them place slot weapons := by
  induction weapons with
  | nil => intro slot; rfl
  | cons m weapons ih => intro slot; simp [kicks, ih, Mounted.stripped, kick_stripped]

variable (current : List FighterState) (attacker target : Nat) (r : Ruling)

theorem strike_stripped (speed : Float32) :
    strike scene.stripped current attacker target speed r =
      strike scene current attacker target speed r := by
  unfold strike
  rw [Scene.get?_stripped, Scene.get?_stripped]
  cases current[attacker]? <;> cases current[target]? <;>
    cases scene.roster.get? attacker <;> cases scene.roster.get? target <;> try rfl
  simp [Entrant.stripped, Loadout.stripped, blow_stripped, triggered_stripped, kicks_stripped,
    Ruling.hit_stripped]

theorem grind_stripped :
    grind scene.stripped current attacker target r = grind scene current attacker target r := by
  unfold grind
  rw [Scene.get?_stripped]
  cases current[attacker]? <;> cases scene.roster.get? attacker <;> try rfl
  simp [Entrant.stripped, Loadout.stripped, Ruling.hit_stripped, List.filter_map, List.foldl_map,
    Mounted.stripped, Function.comp_def]

theorem resolveContact_stripped (c : Contact) :
    resolveContact scene.stripped current r c = resolveContact scene current r c := by
  unfold resolveContact
  cases c.other <;> simp only [strike_stripped, grind_stripped]

end Combat

namespace Hazards

theorem resolveContact_stripped (r : Ruling) (c : Contact) :
    resolveContact scene.stripped r c = resolveContact scene r c := by
  unfold resolveContact wall spikes
  simp only [Ruling.hit_stripped]
  rfl

end Hazards

/-- A ruling is no matter of labels. -/
theorem Ruling.ofContacts_stripped (current next : List FighterState) (contacts : List Contact) :
    ofContacts scene.stripped current next contacts = ofContacts scene current next contacts := by
  have fights :
      Combat.resolveContact scene.stripped current = Combat.resolveContact scene current :=
    funext fun r => funext fun c => Combat.resolveContact_stripped scene current r c
  have hazards : Hazards.resolveContact scene.stripped = Hazards.resolveContact scene :=
    funext fun r => funext fun c => Hazards.resolveContact_stripped scene r c
  unfold ofContacts Combat.resolve Hazards.resolve
  rw [fights, hazards]

end RobotCombat
