/-
# RobotCombat.Proofs.Damage.Change — a ruling is a chain of single changes

Strikes, spinners, walls, spikes and pits change a ruling in few ways: a mark is
set, a cooldown starts, pushes are added, a living fighter is hurt and the damage
is recorded, or it falls and its last hit points are recorded. `Change` lists them
with all that is known when they happen, and `ofContacts_reaches` says that the
ruling on a tick is reached by such changes from the states that moved. What every
change keeps, a tick keeps: `Reaches.invariant`.

* `Change.hurt`: only a living fighter is hurt, by damage that gets through and by no pit;
* `Change.fall`: only a living fighter falls;
* `Reaches.outside`: identity, motion, maximum and action are no matter of a ruling.
-/
import Mathlib.Logic.Relation
import RobotCombat.Damage.Hazards
import RobotCombat.Proofs.Fighter.Health
import RobotCombat.Proofs.Places

namespace RobotCombat

set_option autoImplicit false

open Number

/-- The record of damage that got through to an entrant. -/
def Scene.dealt (scene : Scene) (attacker : Option Nat) (e : Entrant) (applied : Float32)
    (cause : Cause) : DamageEvent :=
  { attacker := (attacker.bind scene.roster.get?).map Entrant.id
    target := e.id
    damage := applied
    cause := cause
    timestamp := scene.timestamp }

/-- The record of a fall. -/
def Scene.fell (scene : Scene) (s : FighterState) : DamageEvent :=
  { attacker := none
    target := s.id
    damage := s.hp
    cause := .pit
    timestamp := scene.timestamp }

namespace Ruling

/-- One change of a ruling. -/
inductive Change (scene : Scene) : Ruling → Ruling → Prop
  | touch (r : Ruling) (place : Nat) :
      Change scene r (r.mark place fun s => { s with inContact := true })
  | prick (r : Ruling) (place : Nat) :
      Change scene r (r.mark place fun s => { s with onSpikes := true })
  | trigger (r : Ruling) (place slot : Nat) (ms : Float32) :
      Change scene r (r.modify place fun s => s.trigger slot ms)
  | kick (r : Ruling) (pushes : List (Nat × Vector2)) :
      Change scene r { r with pushes := r.pushes ++ pushes }
  | hurt {r : Ruling} {target : Nat} {e : Entrant} {s : FighterState} {applied : Float32}
      (attacker : Option Nat) (cause : Cause) (entered : scene.roster.get? target = some e)
      (lookup : r.states[target]? = some s) (alive : s.isAlive = true) (positive : 0 < applied)
      (range : 0 ≤ s.maxHp) (blow : cause ≠ .pit) :
      Change scene r { r with
        states := r.states.set target (s.struck applied)
        damage := r.damage ++ [scene.dealt attacker e applied cause] }
  | unscored {r : Ruling} {target : Nat} {s : FighterState}
      (lookup : r.states[target]? = some s) (noRange : ¬ 0 ≤ s.maxHp) :
      Change scene r { r with unscorable := true }
  | fall {r : Ruling} {place : Nat} {s : FighterState}
      (lookup : r.states[place]? = some s) (alive : s.isAlive = true) :
      Change scene r { r with
        states := r.states.set place (Hazards.fallen s)
        damage := r.damage ++ [scene.fell s] }

/-- What changes lead to. -/
abbrev Reaches (scene : Scene) : Ruling → Ruling → Prop := Relation.ReflTransGen (Change scene)

variable {scene : Scene} {r r' : Ruling}

/-- What every change keeps holds of what changes lead to. -/
theorem Reaches.invariant {P : Ruling → Prop} (reaches : Reaches scene r r')
    (keeps : ∀ {a b}, Change scene a b → P a → P b) (initial : P r) : P r' := by
  induction reaches with
  | refl => exact initial
  | tail _ change ih => exact keeps change ih

theorem foldl_reaches {α : Type} (f : Ruling → α → Ruling)
    (each : ∀ r x, Reaches scene r (f r x)) :
    ∀ (xs : List α) (r : Ruling), Reaches scene r (xs.foldl f r)
  | [], _ => .refl
  | x :: xs, r => (each r x).trans (foldl_reaches f each xs (f r x))

/-! ## Everything that happens to a ruling is such a change -/

/-- What a hit comes to: nothing, or a living fighter is hurt by what gets through, or
the damage has no answer. -/
theorem hit_cases (scene : Scene) (attacker : Option Nat) (target : Nat) (raw : Float32)
    (cause : Cause) (r : Ruling) :
    r.hit scene attacker target raw cause = r ∨
      (∃ e s applied, scene.roster.get? target = some e ∧ r.states[target]? = some s ∧
        s.isAlive = true ∧ 0 < applied ∧ 0 ≤ s.maxHp ∧
        r.hit scene attacker target raw cause = { r with
          states := r.states.set target (s.struck applied)
          damage := r.damage ++ [scene.dealt attacker e applied cause] }) ∨
      (∃ s, r.states[target]? = some s ∧ ¬ 0 ≤ s.maxHp ∧
        r.hit scene attacker target raw cause = { r with unscorable := true }) := by
  unfold hit
  cases entered : scene.roster.get? target with
  | none => exact .inl rfl
  | some e =>
      cases lookup : r.states[target]? with
      | none => exact .inl rfl
      | some s =>
          simp only
          generalize known : armorReduced raw e.stats.damageReduction = applied
          by_cases spared : (!s.isAlive || decide (raw ≤ 0) || decide (applied ≤ 0)) = true
          · exact .inl (if_pos spared)
          · rw [if_neg spared]
            simp only [Bool.or_eq_true, Bool.not_eq_true', decide_eq_true_eq, not_or,
              Bool.not_eq_false] at spared
            obtain ⟨⟨alive, -⟩, through⟩ := spared
            have nonneg : 0 ≤ applied := known ▸ zero_le_larger _
            have positive : 0 < applied :=
              less_of_not_le (ne_nan_of_le_right nonneg) zero_ne_nan through
            by_cases range : 0 ≤ s.maxHp
            · rw [FighterState.damage?_of_alive alive through range]
              exact .inr (.inl ⟨e, s, applied, rfl, rfl, alive, positive, range, rfl⟩)
            · have unanswered : s.damage? applied = none := by
                unfold FighterState.damage?
                rw [if_neg (by simp [alive, through]), if_neg range]
              rw [unanswered]
              exact .inr (.inr ⟨s, rfl, range, rfl⟩)

theorem hit_reaches (attacker : Option Nat) (target : Nat) (raw : Float32) {cause : Cause}
    (blow : cause ≠ .pit) (r : Ruling) :
    Reaches scene r (r.hit scene attacker target raw cause) := by
  rcases hit_cases scene attacker target raw cause r with
    same | ⟨e, s, applied, entered, lookup, alive, positive, range, hurt⟩ |
      ⟨s, lookup, range, unscored⟩
  · rw [same]
  · rw [hurt]
    exact .single (.hurt attacker cause entered lookup alive positive range blow)
  · rw [unscored]
    exact .single (.unscored lookup range)

/-- The cause of a blow is a weapon, if there is one. -/
theorem blow_cause_ne_pit (me : FighterState) (speed : Float32) (weapons : List Mounted) :
    ∀ (slot : Nat) (b : Combat.Blow), b.cause ≠ some .pit →
      (Combat.blow me speed slot b weapons).cause ≠ some .pit := by
  induction weapons with
  | nil => exact fun slot b kept => kept
  | cons m weapons ih =>
      intro slot b kept
      refine ih _ _ ?_
      unfold Combat.Blow.add
      split
      · cases known : b.cause with
        | none => simp
        | some cause => simpa [known] using kept
      · exact kept

theorem strike_reaches (current : List FighterState) (attacker target : Nat) (speed : Float32)
    (r : Ruling) : Reaches scene r (Combat.strike scene current attacker target speed r) := by
  unfold Combat.strike
  split
  · rename_i me them entrant opponent _ _ _ _
    split
    · dsimp only
      have started : ∀ (r : Ruling) (t : Nat × Float32),
          Reaches scene r (r.modify attacker fun s => s.trigger t.1 t.2) :=
        fun r t => .single (.trigger r attacker t.1 t.2)
      have cooled := foldl_reaches _ started (Combat.triggered me 0 entrant.loadout.weapons) r
      have kicked := cooled.tail (.kick _ (Combat.kicks scene me them target 0
        entrant.loadout.weapons))
      have weapon := blow_cause_ne_pit me speed entrant.loadout.weapons 0 ⟨0, none⟩ nofun
      refine kicked.trans (hit_reaches (some attacker) target _ ?_ _)
      cases known : (Combat.blow me speed 0 ⟨0, none⟩ entrant.loadout.weapons).cause with
      | none => simp
      | some cause => simpa [known] using weapon
    · exact .refl
  · exact .refl

theorem grind_reaches (current : List FighterState) (attacker target : Nat) (r : Ruling) :
    Reaches scene r (Combat.grind scene current attacker target r) := by
  unfold Combat.grind
  split
  · split
    · exact foldl_reaches _ (fun r m => hit_reaches _ _ _ (by simp) r) _ r
    · exact .refl
  · exact .refl

theorem combat_reaches (current : List FighterState) (r : Ruling) (c : Contact) :
    Reaches scene r (Combat.resolveContact scene current r c) := by
  unfold Combat.resolveContact
  cases c.other with
  | wall side => exact .refl
  | sensor place => exact .refl
  | body other =>
      refine .trans ?_ (grind_reaches _ _ _ _)
      refine .trans ?_ (grind_reaches _ _ _ _)
      have first : Reaches scene r (r.mark c.body fun s => { s with inContact := true }) :=
        .single (.touch r c.body)
      have touched := first.tail (.touch _ other)
      by_cases begun : c.isNew = true
      · simp only [if_pos begun]
        exact touched.trans ((strike_reaches _ _ _ _ _).trans (strike_reaches _ _ _ _ _))
      · simp only [if_neg begun]
        exact touched

theorem pit_reaches (place : Nat) (r : Ruling) : Reaches scene r (Hazards.pit scene place r) := by
  unfold Hazards.pit
  split
  · rename_i s lookup
    split
    · rename_i alive
      exact .single (.fall lookup alive)
    · exact .refl
  · exact .refl

theorem wall_reaches (c : Contact) (r : Ruling) : Reaches scene r (Hazards.wall scene c r) := by
  unfold Hazards.wall
  split
  · exact .refl
  · exact hit_reaches _ _ _ (by simp) _

theorem hazards_reaches (r : Ruling) (c : Contact) :
    Reaches scene r (Hazards.resolveContact scene r c) := by
  unfold Hazards.resolveContact
  cases c.other with
  | body other => exact .refl
  | wall side => exact wall_reaches c r
  | sensor place =>
      simp only
      split
      · split
        · exact .trans (.single (.prick _ _)) (hit_reaches _ _ _ (by simp) _)
        · exact pit_reaches _ _
      · exact .refl

/-- The ruling on a tick is reached by single changes from the fighters as they
moved. -/
theorem ofContacts_reaches (scene : Scene) (current next : List FighterState)
    (contacts : List Contact) :
    Reaches scene (.start next) (ofContacts scene current next contacts) := by
  unfold ofContacts Combat.resolve Hazards.resolve
  exact (foldl_reaches _ (combat_reaches current) contacts _).trans
    (foldl_reaches _ hazards_reaches contacts _)

end Ruling

/-! ## What a ruling leaves alone -/

/-- The part of a state that no ruling touches. -/
def FighterState.outside (s : FighterState) : FighterState :=
  { s with hp := 0, status := .none, cooldowns := s.cooldowns.map fun _ => 0 }

theorem FighterState.outside_struck (s : FighterState) (amount : Float32) :
    (s.struck amount).outside = s.outside := by
  unfold struck
  split <;> rfl

theorem FighterState.outside_trigger (s : FighterState) (slot : Nat) (ms : Float32) :
    (s.trigger slot ms).outside = s.outside := by
  have slots : (s.cooldowns.modify slot fun _ => larger ms 0).map (fun _ => (0 : Float32)) =
      s.cooldowns.map fun _ => 0 := by
    apply map_modify
    intro cooldown
    rfl
  unfold outside trigger
  rw [slots]

namespace Ruling

variable {scene : Scene} {r r' : Ruling}

theorem map_mark {α : Type} {f : FighterState → α} {change : Status → Status}
    (same : ∀ s : FighterState, f { s with status := change s.status } = f s) (r : Ruling)
    (place : Nat) : (r.mark place change).states.map f = r.states.map f :=
  map_modify same r.states place

theorem Change.outside (change : Change scene r r') :
    r'.states.map FighterState.outside = r.states.map FighterState.outside := by
  cases change with
  | touch place => exact map_mark (fun _ => rfl) _ _
  | prick place => exact map_mark (fun _ => rfl) _ _
  | trigger place slot ms => exact map_modify (fun s => s.outside_trigger slot ms) _ _
  | kick pushes => rfl
  | hurt attacker cause entered lookup => exact map_set lookup (FighterState.outside_struck _ _)
  | unscored lookup => rfl
  | fall lookup => exact map_set lookup rfl

/-- Who a fighter is, where it stands and what it does is no matter of a ruling. -/
theorem Reaches.outside (reaches : Reaches scene r r') :
    r'.states.map FighterState.outside = r.states.map FighterState.outside := by
  refine reaches.invariant (P := fun q => q.states.map FighterState.outside = _) ?_ rfl
  intro a b change same
  exact change.outside.trans same

end Ruling

end RobotCombat
