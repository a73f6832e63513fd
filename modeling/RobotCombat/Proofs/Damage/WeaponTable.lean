/-
# RobotCombat.Proofs.Damage.WeaponTable — what each weapon adds to a strike

The table of weapons as a relation, a row for each kind and readiness (`Weapon.Adds`). A
strike sums what the rows give above zero, in slot order, and names the first of these
weapons as its cause (`blow_eq`); a weapon without a row is not seen at all. Apart from
damage, every flipper that is ready gives its target one push (`kicks_eq_replicate`).
-/
import RobotCombat.Proofs.Damage.Encounter

namespace RobotCombat

set_option autoImplicit false

open Number

/-- The rows of the table of weapons: what a weapon adds to a strike at a contact speed,
ready or not. Spinners have no row, and most weapons have none while they cool down. -/
inductive Weapon.Adds (w : Weapon) (speed : Float32) : Bool → Float32 → Prop where
  | flipper (kind : w.kind = .flipper) : Adds w speed true (w.baseDamage * 0.5)
  | hammer (kind : w.kind = .hammer) : Adds w speed true (w.baseDamage * (1 + speed * 0.1))
  | saw (kind : w.kind = .saw) : Adds w speed true w.baseDamage
  | coolingSaw (kind : w.kind = .saw) : Adds w speed false (w.baseDamage * 0.3)
  | wedge (ready : Bool) (kind : w.kind = .wedge) : Adds w speed ready (w.baseDamage * 0.3)
  | plain (kind : w.kind ∉ [.flipper, .hammer, .saw, .wedge, .spinner]) :
      Adds w speed true w.baseDamage

/-- What a weapon contributes above zero stands in the table, and the other way round. -/
theorem Weapon.adds_iff {w : Weapon} {speed amount : Float32} {ready : Bool}
    (positive : 0 < amount) : w.Adds speed ready amount ↔ w.contribution ready speed = amount := by
  constructor
  · intro adds
    unfold contribution
    cases adds with
    | plain kind => cases known : w.kind <;> simp [known] at kind <;> exact if_pos rfl
    | wedge ready kind => rw [kind]
    | coolingSaw kind =>
        rw [kind]
        exact if_neg nofun
    | flipper kind | hammer kind | saw kind =>
        rw [kind]
        exact if_pos rfl
  · rintro rfl
    have nothing : ¬ (0 : Float32) < 0 := by decide
    unfold contribution at positive ⊢
    cases ready with
    | true =>
        cases known : w.kind with
        | spinner =>
            rw [known] at positive
            exact absurd positive nothing
        | wedge => exact .wedge true known
        | saw => exact .saw known
        | flipper => exact .flipper known
        | hammer => exact .hammer known
        | flamethrower | emp | grapple | drill | plasma => exact .plain (by simp [known])
    | false =>
        cases known : w.kind with
        | wedge => exact .wedge false known
        | saw => exact .coolingSaw known
        | _ =>
            rw [known] at positive
            exact absurd positive nothing

namespace Combat

/-- What the weapon in a slot adds to a strike. -/
structure Contribution where
  slot : Nat
  kind : WeaponKind
  amount : Float32
  deriving DecidableEq, Repr

/-- What weapons add to a strike, in slot order, the first one in the given slot. -/
def contributions (me : FighterState) (speed : Float32) (first : Nat) (weapons : List Mounted) :
    List Contribution :=
  (weapons.zipIdx first).filterMap fun (m, slot) =>
    let amount := m.weapon.contribution (me.isReady slot) speed
    if 0 < amount then some ⟨slot, m.weapon.kind, amount⟩ else none

section Contributions

variable {me : FighterState} {speed : Float32} {weapons : List Mounted}

theorem contributions_cons (first : Nat) (m : Mounted) :
    contributions me speed first (m :: weapons) =
      (if 0 < m.weapon.contribution (me.isReady first) speed then
          [⟨first, m.weapon.kind, m.weapon.contribution (me.isReady first) speed⟩]
        else []) ++ contributions me speed (first + 1) weapons := by
  unfold contributions
  rw [List.zipIdx_cons, filterMap_cons_eq_append]
  dsimp only
  split <;> rfl

/-- The contributions are those of the table that are above zero. -/
theorem mem_contributions_iff {c : Contribution} :
    c ∈ contributions me speed 0 weapons ↔
      0 < c.amount ∧ ∃ m, weapons[c.slot]? = some m ∧ c.kind = m.weapon.kind ∧
        m.weapon.Adds speed (me.isReady c.slot) c.amount := by
  unfold contributions
  rw [List.mem_filterMap]
  constructor
  · rintro ⟨⟨m, slot⟩, mounted, added⟩
    have here : weapons[slot]? = some m := List.mem_zipIdx_iff_getElem?.mp mounted
    dsimp only at added
    split at added
    · rename_i positive
      obtain rfl := Option.some.inj added
      exact ⟨positive, m, here, rfl, (Weapon.adds_iff positive).mpr rfl⟩
    · cases added
  · rintro ⟨positive, m, here, kind, adds⟩
    have amount := (Weapon.adds_iff positive).mp adds
    refine ⟨(m, c.slot), List.mem_zipIdx_iff_getElem?.mpr here, ?_⟩
    dsimp only
    rw [amount, if_pos positive, ← kind]

/-- The contributions come in slot order. -/
theorem contributions_ordered (first : Nat) :
    (contributions me speed first weapons).Pairwise (·.slot < ·.slot) := by
  have slots : (weapons.zipIdx first).Pairwise (·.2 < ·.2) := by
    rw [← List.pairwise_map (f := Prod.snd) (R := (· < ·)), List.zipIdx_map_snd]
    exact List.pairwise_lt_range'
  refine List.pairwise_filterMap.mpr (slots.imp ?_)
  rintro ⟨m, slot⟩ ⟨m', slot'⟩ before c added c' added'
  dsimp only at added added'
  split at added
  · split at added'
    · obtain rfl := Option.some.inj added
      obtain rfl := Option.some.inj added'
      exact before
    · cases added'
  · cases added

/-- A blow sums the contributions and names the first one, unless it has a cause. -/
theorem blow_eq (first : Nat) (b : Blow) :
    blow me speed first b weapons =
      ⟨(contributions me speed first weapons).foldl (fun sum c => sum + c.amount) b.raw,
        b.cause.or ((contributions me speed first weapons).head?.map fun c => .weapon c.kind)⟩ := by
  induction weapons generalizing first b with
  | nil => simp [blow, contributions]
  | cons m weapons ih =>
      rw [blow, ih, contributions_cons, Blow.add]
      split
      · cases b.cause <;> rfl
      · rfl

end Contributions

/-- The flippers of a fighter that are ready, the first weapon in the given slot. -/
def readyFlippers (me : FighterState) (first : Nat) (weapons : List Mounted) : Nat :=
  (weapons.zipIdx first).countP fun (m, slot) => me.isReady slot && m.weapon.kind = .flipper

/-- Every flipper that is ready gives the same push. -/
theorem kicks_eq_replicate (scene : Scene) (me them : FighterState) (place : Nat)
    (weapons : List Mounted) (first : Nat) :
    kicks scene me them place first weapons =
      List.replicate (readyFlippers me first weapons) (place, kick scene me them) := by
  induction weapons generalizing first with
  | nil => rfl
  | cons m weapons ih =>
      have counted : readyFlippers me first (m :: weapons) =
          readyFlippers me (first + 1) weapons +
            if (me.isReady first && m.weapon.kind = .flipper) = true then 1 else 0 := by
        unfold readyFlippers
        rw [List.zipIdx_cons, List.countP_cons]
      rw [kicks, counted, ih]
      split
      · rfl
      · rfl

end Combat

end RobotCombat
