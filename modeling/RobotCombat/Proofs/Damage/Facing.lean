/-
# RobotCombat.Proofs.Damage.Facing — damage is no matter of headings

The rules of damage look at hit points, marks, cooldowns and positions, and never at a
heading. A ruling on fighters without headings is the ruling on the fighters, without
headings (`ofContacts_unturned`).
-/
import RobotCombat.Damage.Hazards
import RobotCombat.Proofs.Places

namespace RobotCombat

set_option autoImplicit false

namespace FighterState

/-- The state without its heading. -/
def unturned (s : FighterState) : FighterState := { s with angle := 0 }

variable (s : FighterState)

-- Not by `rfl`: as a definitional step it would leave the conditions of `if` half rewritten.
@[simp] theorem isAlive_unturned : s.unturned.isAlive = s.isAlive := by
  simp only [isAlive, unturned]

@[simp] theorem isReady_unturned (slot : Nat) : s.unturned.isReady slot = s.isReady slot := rfl

theorem map_unturned (states : List FighterState) :
    (states.map unturned).map unturned = states.map unturned := by
  rw [List.map_map]
  rfl

theorem damage?_unturned (amount : Float32) :
    s.unturned.damage? amount =
      (s.damage? amount).map fun hurt => (hurt.1.unturned, hurt.2) := by
  have hp : s.unturned.hp = s.hp := rfl
  have maxHp : s.unturned.maxHp = s.maxHp := rfl
  simp only [damage?, isAlive_unturned, hp, maxHp]
  split
  · rfl
  · split
    · split <;> rfl
    · rfl

end FighterState

namespace Ruling

/-- The ruling without headings. -/
def unturned (r : Ruling) : Ruling := { r with states := r.states.map FighterState.unturned }

variable (r : Ruling)

/-- Rulings that agree without headings have the same effects besides the states. -/
theorem effects_of_unturned {r r' : Ruling} (same : r.unturned = r'.unturned) :
    r.damage = r'.damage ∧ r.pushes = r'.pushes ∧ r.unscorable = r'.unscorable := by
  unfold unturned at same
  obtain ⟨-, damage, pushes, unscorable⟩ := Ruling.mk.inj same
  exact ⟨damage, pushes, unscorable⟩

/-- A change that does not touch headings. -/
theorem modify_unturned (place : Nat) (change : FighterState → FighterState)
    (same : ∀ s, (change s).unturned = change s.unturned) :
    r.unturned.modify place change = (r.modify place change).unturned := by
  have states := map_modify_of_comm same r.states place
  unfold modify unturned
  rw [states]

theorem mark_unturned (place : Nat) (change : Status → Status) :
    r.unturned.mark place change = (r.mark place change).unturned :=
  r.modify_unturned place _ fun _ => rfl

theorem hit_unturned (scene : Scene) (attacker : Option Nat) (target : Nat) (raw : Float32)
    (cause : Cause) :
    r.unturned.hit scene attacker target raw cause =
      (r.hit scene attacker target raw cause).unturned := by
  have known : r.unturned.states[target]? = r.states[target]?.map FighterState.unturned :=
    List.getElem?_map
  unfold hit
  rw [known]
  cases scene.roster.get? target <;> cases r.states[target]? <;> try rfl
  next entrant state =>
    simp only [Option.map_some, FighterState.isAlive_unturned, FighterState.damage?_unturned]
    split
    · rfl
    · cases state.damage? (armorReduced raw entrant.stats.damageReduction) with
      | none => rfl
      | some hurt => simp only [Option.map_some, unturned, List.map_set]

end Ruling

namespace Combat

variable (scene : Scene) (me them : FighterState)

theorem blow_unturned (speed : Float32) (weapons : List Mounted) :
    ∀ (slot : Nat) (b : Blow),
      blow me.unturned speed slot b weapons = blow me speed slot b weapons := by
  induction weapons with
  | nil => intro slot b; rfl
  | cons m weapons ih => intro slot b; exact ih _ _

theorem triggered_unturned (weapons : List Mounted) :
    ∀ slot : Nat, triggered me.unturned slot weapons = triggered me slot weapons := by
  induction weapons with
  | nil => intro slot; rfl
  | cons m weapons ih => intro slot; simp only [triggered, ih, FighterState.isReady_unturned]

theorem kicks_unturned (place : Nat) (weapons : List Mounted) :
    ∀ slot : Nat, kicks scene me.unturned them.unturned place slot weapons =
      kicks scene me them place slot weapons := by
  have kick : kick scene me.unturned them.unturned = kick scene me them := rfl
  induction weapons with
  | nil => intro slot; rfl
  | cons m weapons ih => intro slot; simp only [kicks, ih, kick, FighterState.isReady_unturned]

variable (current : List FighterState) (attacker target : Nat) (r : Ruling)

theorem strike_unturned (speed : Float32) :
    strike scene (current.map FighterState.unturned) attacker target speed r.unturned =
      (strike scene current attacker target speed r).unturned := by
  have trigger : ∀ (r : Ruling) (t : Nat × Float32),
      (r.unturned.modify attacker fun s => s.trigger t.1 t.2) =
        (r.modify attacker fun s => s.trigger t.1 t.2).unturned :=
    fun r t => r.modify_unturned attacker _ fun _ => rfl
  have kicked : ∀ (r : Ruling) (pushes : List (Nat × Vector2)),
      ({ r.unturned with pushes := r.unturned.pushes ++ pushes } : Ruling) =
        Ruling.unturned { r with pushes := r.pushes ++ pushes } := fun _ _ => rfl
  unfold strike
  rw [List.getElem?_map, List.getElem?_map]
  cases current[attacker]? <;> cases current[target]? <;>
    cases scene.roster.get? attacker <;> cases scene.roster.get? target <;> try rfl
  next me them entrant opponent =>
    simp only [Option.map_some, FighterState.isAlive_unturned, blow_unturned, triggered_unturned,
      kicks_unturned]
    split
    · rw [List.foldl_hom Ruling.unturned trigger]
      rw [kicked, Ruling.hit_unturned]
    · rfl

theorem grind_unturned :
    grind scene (current.map FighterState.unturned) attacker target r.unturned =
      (grind scene current attacker target r).unturned := by
  have hits : ∀ (r : Ruling) (m : Mounted),
      r.unturned.hit scene (some attacker) target (m.weapon.baseDamage * 0.1)
          (.weapon m.weapon.kind) =
        (r.hit scene (some attacker) target (m.weapon.baseDamage * 0.1)
          (.weapon m.weapon.kind)).unturned :=
    fun r m => r.hit_unturned scene _ _ _ _
  unfold grind
  rw [List.getElem?_map]
  cases current[attacker]? <;> cases scene.roster.get? attacker <;> try rfl
  next me entrant =>
    simp only [Option.map_some, FighterState.isAlive_unturned]
    split
    · exact List.foldl_hom Ruling.unturned hits
    · rfl

theorem resolveContact_unturned (c : Contact) :
    resolveContact scene (current.map FighterState.unturned) r.unturned c =
      (resolveContact scene current r c).unturned := by
  unfold resolveContact
  cases c.other with
  | body other =>
      simp only [Ruling.mark_unturned]
      split
      · simp only [strike_unturned, grind_unturned]
      · simp only [grind_unturned]
  | wall side => rfl
  | sensor place => rfl

end Combat

namespace Hazards

variable (scene : Scene) (r : Ruling)

theorem pit_unturned (place : Nat) : pit scene place r.unturned = (pit scene place r).unturned := by
  have known : r.unturned.states[place]? = r.states[place]?.map FighterState.unturned :=
    List.getElem?_map
  unfold pit
  rw [known]
  cases r.states[place]? with
  | none => rfl
  | some s =>
      simp only [Option.map_some, FighterState.isAlive_unturned]
      split
      · simp only [Ruling.unturned, List.map_set]
        rfl
      · rfl

theorem resolveContact_unturned (c : Contact) :
    resolveContact scene r.unturned c = (resolveContact scene r c).unturned := by
  unfold resolveContact
  cases c.other with
  | body other => rfl
  | wall side =>
      dsimp only [wall]
      split
      · rfl
      · exact r.hit_unturned scene _ _ _ _
  | sensor place =>
      dsimp only
      cases scene.arena.hazards[place]? with
      | none => rfl
      | some h =>
          dsimp only
          cases h.kind with
          | spike =>
              dsimp only [spikes]
              rw [Ruling.mark_unturned, Ruling.hit_unturned]
          | pit => exact pit_unturned scene r c.body

end Hazards

/-- A ruling is no matter of headings. -/
theorem Ruling.ofContacts_unturned (scene : Scene) (current next : List FighterState)
    (contacts : List Contact) :
    ofContacts scene (current.map FighterState.unturned) (next.map FighterState.unturned) contacts =
      (ofContacts scene current next contacts).unturned := by
  have fights : Combat.resolve scene (current.map FighterState.unturned) contacts
      (start next).unturned = (Combat.resolve scene current contacts (start next)).unturned :=
    List.foldl_hom Ruling.unturned fun r c => Combat.resolveContact_unturned scene current r c
  have hazards : ∀ r : Ruling,
      Hazards.resolve scene contacts r.unturned = (Hazards.resolve scene contacts r).unturned :=
    fun r => List.foldl_hom Ruling.unturned fun r c => Hazards.resolveContact_unturned scene r c
  exact (congrArg (Hazards.resolve scene contacts) fights).trans (hazards _)

end RobotCombat
