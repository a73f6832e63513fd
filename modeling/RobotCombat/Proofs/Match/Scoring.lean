/-
# RobotCombat.Proofs.Match.Scoring — a catalog that loads can be fought with

Damage has an answer for every fighter whose hit points have a range, and a fighter keeps
the maximum it entered with. Where no maximum is negative or missing, no damage is left
unscored, in any tick and in none of its contacts (`Ranged.steps`). This asks less than
sound hit points: an infinite maximum is a range as well.

* `loaded_catalog_fights`: fighters from a catalog that loads have such a maximum.
-/
import RobotCombat.Proofs.Catalog.Loaded
import RobotCombat.Proofs.Match.Verdict

namespace RobotCombat

set_option autoImplicit false

open Number

namespace Ruling

variable {scene : Scene} {r r' : Ruling}

/-- A change keeps the maxima, and where these are ranges it scores all damage. -/
theorem Change.ranged (change : Change scene r r') (ranged : ∀ s ∈ r.states, 0 ≤ s.maxHp) :
    (∀ s ∈ r'.states, 0 ≤ s.maxHp) ∧ r'.unscorable = r.unscorable := by
  have maxima : ∀ states : List FighterState, (∀ s ∈ states, 0 ≤ s.maxHp) ↔
      ∀ s ∈ states.map FighterState.outside, 0 ≤ s.maxHp := by
    intro states
    rw [List.forall_mem_map]
    rfl
  refine ⟨?_, ?_⟩
  · rw [maxima, change.outside, ← maxima]
    exact ranged
  · cases change with
    | unscored lookup noRange => exact absurd (ranged _ (List.mem_of_getElem? lookup)) noRange
    | _ => rfl

/-- The ruling on a tick of fighters with ranges leaves no damage unscored. -/
theorem ofContacts_scored (scene : Scene) (current : List FighterState) {next : List FighterState}
    (contacts : List Contact) (ranged : ∀ s ∈ next, 0 ≤ s.maxHp) :
    (ofContacts scene current next contacts).unscorable = false := by
  have kept := (ofContacts_reaches scene current next contacts).invariant
    (P := fun r => (∀ s ∈ r.states, 0 ≤ s.maxHp) ∧ r.unscorable = false)
    (fun change kept => ⟨(change.ranged kept.1).1, (change.ranged kept.1).2.trans kept.2⟩)
    ⟨ranged, rfl⟩
  exact kept.2

end Ruling

namespace Battle

/-- Fighters keep the maxima of their hit points. -/
theorem maxima_moved (b : Battle) : b.moved.map (·.maxHp) = b.states.map (·.maxHp) := by
  apply List.ext_getElem?
  intro place
  unfold moved
  rw [List.getElem?_map, List.getElem?_map, List.getElem?_map, List.getElem?_zipIdx]
  cases b.states[place]? with
  | none => rfl
  | some s => exact congrArg some (carried_keeps _ _ s _).2.2.1

theorem maxima_tickOnce (b : Battle) :
    b.tickOnce.states.map (·.maxHp) = b.states.map (·.maxHp) :=
  (b.map_tickOnce (·.maxHp) (fun _ => rfl) fun _ _ => rfl).trans b.maxima_moved

/-- A match of fighters with the given maxima that has scored all damage so far. -/
structure Ranged (maxima : List Float32) (b : Battle) : Prop where
  maxima : b.states.map (·.maxHp) = maxima
  scored : b.unscorable = false

variable {maxima : List Float32} {b : Battle}

theorem Ranged.tickOnce (ranges : ∀ x ∈ maxima, 0 ≤ x) (ranged : b.Ranged maxima) :
    b.tickOnce.Ranged maxima where
  maxima := b.maxima_tickOnce.trans ranged.maxima
  scored := by
    have moved : ∀ s ∈ b.moved, 0 ≤ s.maxHp := by
      intro s member
      refine ranges _ ?_
      rw [← ranged.maxima, ← b.maxima_moved]
      exact List.mem_map_of_mem member
    rw [tickOnce_eq]
    show (b.unscorable || b.ruling.unscorable) = false
    rw [ranged.scored, Bool.false_or]
    exact Ruling.ofContacts_scored b.scene b.states b.nextWorld.contacts moved

theorem Ranged.steps (ranges : ∀ x ∈ maxima, 0 ≤ x) (ranged : b.Ranged maxima) (n : Nat) :
    (steps n b).Ranged maxima :=
  steps_invariant (P := fun b => b.Ranged maxima) (fun _ _ ranged => ranged.tickOnce ranges) n ranged

/-- Damage to a fighter with a range of hit points has an answer. -/
theorem damage?_isSome {s : FighterState} (range : 0 ≤ s.maxHp) (amount : Float32) :
    (s.damage? amount).isSome = true := by
  unfold FighterState.damage?
  rw [if_pos range]
  split <;> rfl

/-- The maxima with which two builds enter. -/
theorem battleOf_ranged (a b : Build) (arenaId : String) (c : Catalog) (config : MatchConfig) :
    (battleOf a b arenaId c config).Ranged
      [(Loadout.resolve a c).stats.maxHp, (Loadout.resolve b c).stats.maxHp] where
  maxima := by
    have parts : Loadout.resolve (b.beside a) c = Loadout.resolve b c := by
      unfold Build.beside
      split <;> rfl
    rw [battleOf_states, pairing_eq, ← parts]
    rfl
  scored := rfl

/-- A catalog that loads can be fought with. Whatever parts a build names, known or not,
it comes to a positive maximum of hit points, a positive radius, a positive weight and a
reduction between zero and one, none of which is no number, and no weapon that it mounts
has a negative cooldown. In any match of two builds, after any number of ticks, the
fighters have the maxima they entered with, damage of any amount to them has an answer, and
all damage so far was scored, in the end as well. -/
theorem loaded_catalog_fights {text : String} {c : Catalog} (loaded : Catalog.load text = .ok c) :
    (∀ f : Build,
      let parts := Loadout.resolve f c
      (0 < parts.stats.maxHp ∧ 0 < parts.stats.radius ∧ 0 < parts.stats.weight ∧
        0 ≤ parts.stats.damageReduction ∧ parts.stats.damageReduction ≤ 1) ∧
      (parts.stats.maxHp ≠ .nan ∧ parts.stats.radius ≠ .nan ∧ parts.stats.weight ≠ .nan ∧
        parts.stats.damageReduction ≠ .nan) ∧
      ∀ m ∈ parts.weapons, 0 ≤ m.weapon.cooldownMs) ∧
    ∀ (a b : Build) (arenaId : String) (config : MatchConfig),
      let first := battleOf a b arenaId c config
      (∀ n, (steps n first).states.map (·.maxHp) =
          [(Loadout.resolve a c).stats.maxHp, (Loadout.resolve b c).stats.maxHp] ∧
        (∀ s ∈ (steps n first).states, ∀ amount, (s.damage? amount).isSome = true) ∧
        (steps n first).unscorable = false) ∧
      first.run.unscorable = false := by
  have fit := Catalog.load_fit loaded
  constructor
  · intro f parts
    obtain ⟨maxHp, radius, weight, low, high⟩ := fit.stats f
    exact ⟨⟨maxHp, radius, weight, low, high⟩,
      ⟨ne_nan_of_lt_right maxHp, ne_nan_of_lt_right radius, ne_nan_of_lt_right weight,
        ne_nan_of_le_left high⟩, fun m member => fit.mounted f member⟩
  · intro a b arenaId config first
    have ranges : ∀ x ∈ [(Loadout.resolve a c).stats.maxHp, (Loadout.resolve b c).stats.maxHp],
        0 ≤ x := by
      intro x member
      rcases List.mem_pair.mp member with rfl | rfl
      · exact le_of_less (fit.stats a).maxHp
      · exact le_of_less (fit.stats b).maxHp
    have ranged := (battleOf_ranged a b arenaId c config).steps ranges
    refine ⟨fun n => ⟨(ranged n).maxima, ?_, (ranged n).scored⟩, ?_⟩
    · intro s member amount
      refine damage?_isSome (ranges _ ?_) amount
      rw [← (ranged n).maxima]
      exact List.mem_map_of_mem member
    · obtain ⟨n, -, -, same, -⟩ := run_eq_steps (b := first) rfl
      rw [same]
      exact (ranged n).scored

/-- A catalog with a chassis past the largest number and a weapon as far below the least,
each written as the list of its fields. -/
def reckless : String :=
  "\x7b\"chassis\":\x7b\"brawler\":[1e39,-5,1e39,35,2]\x7d," ++
    "\"weapons\":\x7b\"anvil\":[\"hammer\",-20,-1e39,-0.0]\x7d,\"armor\":\x7b\"foil\":[0.5,-7]\x7d\x7d"

/-- A fighter with two of its weapons, one that nobody knows, and no chassis of its own. -/
def wrecker : Build :=
  ⟨"wrecker", "Wrecker", "unknown", ["anvil", "net", "anvil"], some "foil", "", .usual⟩

theorem reckless_loads :
    (match Catalog.load reckless with
      | .ok c =>
        decide ((Loadout.resolve wrecker c).totalWeight = .nan ∧
          (Loadout.resolve wrecker c).stats.weight = epsilon ∧
          (Loadout.resolve wrecker c).stats.maxHp.isInf = true)
      | .error _ => false) = true := by
  decide +kernel

/-- It fights with an infinite maximum, and with the smallest weight, since its parts
weigh nothing that is a number. -/
theorem reckless_catalog_fights :
    ∃ c, Catalog.load reckless = .ok c ∧
      (Loadout.resolve wrecker c).totalWeight = .nan ∧
      (Loadout.resolve wrecker c).stats.weight = epsilon ∧
      (Loadout.resolve wrecker c).stats.maxHp.isInf = true ∧
      0 < (Loadout.resolve wrecker c).stats.maxHp ∧
      (battleOf wrecker Roster.smith "nowhere" c .usual).run.unscorable = false := by
  have loads := reckless_loads
  cases loaded : Catalog.load reckless with
  | error e =>
      rw [loaded] at loads
      cases loads
  | ok c =>
      rw [loaded] at loads
      obtain ⟨missing, weight, unbounded⟩ := of_decide_eq_true loads
      obtain ⟨builds, fights⟩ := loaded_catalog_fights loaded
      exact ⟨c, rfl, missing, weight, unbounded, (builds wrecker).1.1,
        (fights wrecker Roster.smith "nowhere" .usual).2⟩

end Battle

end RobotCombat
