/-
# RobotCombat.Proofs.Damage.Deeds — a ruling as a list of deeds

What a ruling sets out to do is settled by the snapshot of the tick and its contacts,
before anything is done: marks, cooldowns, pushes, blows and falls, each at one place.
`Ruling.deeds` lists them. What becomes of a deed is settled at its place: `Deed.effect`
reads the entrant and the state that stand there, and nothing else. So who strikes and
what is ready never depends on what was done before in the same tick, and what a fighter
suffers never depends on what happens to another one.

* `ofContacts_eq_perform`: the ruling on contacts performs its deeds in order.
-/
import RobotCombat.Damage.Hazards
import RobotCombat.Proofs.Fighter.Health
import RobotCombat.Proofs.Number.Side
import RobotCombat.Proofs.Places

namespace RobotCombat

set_option autoImplicit false

open Number

/-- One thing that is done to the fighter at a place. -/
inductive Deed where
  | touch
  | prick
  | trigger (slot : Nat) (ms : Float32)
  | push (force : Vector2)
  | harm (attacker : Option String) (raw : Float32) (cause : Cause)
  | drop
  deriving DecidableEq, Repr

/-- What becomes of a fighter: its state, the damage and the pushes it takes, and whether
damage found no range of hit points. -/
structure Fate where
  state : FighterState
  damage : List DamageEvent
  pushes : List Vector2
  unscorable : Bool
  deriving DecidableEq, Repr

/-- Nothing is recorded. -/
def Fate.quiet (s : FighterState) : Fate := ⟨s, [], [], false⟩

/-- One fate after another. -/
def Fate.followedBy (first later : Fate) : Fate :=
  { state := later.state
    damage := first.damage ++ later.damage
    pushes := first.pushes ++ later.pushes
    unscorable := first.unscorable || later.unscorable }

/-- What a deed does to an entrant in a state. Only the living are harmed or fall, and
harm must get through armor. -/
def Deed.effect (timestamp : Float32) (e : Entrant) (s : FighterState) : Deed → Fate
  | .touch => .quiet { s with status := { s.status with inContact := true } }
  | .prick => .quiet { s with status := { s.status with onSpikes := true } }
  | .trigger slot ms => .quiet (s.trigger slot ms)
  | .push force => { Fate.quiet s with pushes := [force] }
  | .harm attacker raw cause =>
    let applied := armorReduced raw e.stats.damageReduction
    if s.isAlive = true ∧ 0 < applied then
      if 0 ≤ s.maxHp then
        { Fate.quiet (s.struck applied) with
          damage := [⟨attacker, e.id, applied, cause, timestamp⟩] }
      else { Fate.quiet s with unscorable := true }
    else .quiet s
  | .drop =>
    if s.isAlive then
      { Fate.quiet (Hazards.fallen s) with damage := [⟨none, s.id, s.hp, .pit, timestamp⟩] }
    else .quiet s

/-- Who stands at a place alive, by the states that the tick began with. -/
def Scene.living? (scene : Scene) (current : List FighterState) (place : Nat) :
    Option (Entrant × FighterState) :=
  match scene.roster.get? place, current[place]? with
  | some e, some s => if s.isAlive then some (e, s) else none
  | _, _ => none

theorem Scene.living?_eq_some_iff {scene : Scene} {current : List FighterState} {place : Nat}
    {e : Entrant} {s : FighterState} :
    scene.living? current place = some (e, s) ↔
      scene.roster.get? place = some e ∧ current[place]? = some s ∧ s.isAlive = true := by
  unfold living?
  cases scene.roster.get? place <;> cases current[place]? <;> simp
  grind

namespace Combat

/-! ## The deeds of contacts -/

/-- The cooldowns that a strike starts. -/
def spent (me : FighterState) (e : Entrant) : List Deed :=
  (triggered me 0 e.loadout.weapons).map fun t => .trigger t.1 t.2

/-- The damage of a strike, all weapons and the momentum in one. -/
def strikeHarm (me : FighterState) (e opponent : Entrant) (speed : Float32) : Deed :=
  let b := blow me speed 0 ⟨0, none⟩ e.loadout.weapons
  .harm (some e.id) (b.raw + momentum speed e.stats opponent.stats) (b.cause.getD .collision)

/-- The pushes and the damage of a strike. -/
def dealt (scene : Scene) (me them : FighterState) (e opponent : Entrant) (speed : Float32) :
    List Deed :=
  ((kicks scene me them 0 0 e.loadout.weapons).map fun k => .push k.2)
    ++ [strikeHarm me e opponent speed]

/-- The damage of spinners in one tick, in slot order. -/
def ground (e : Entrant) : List Deed :=
  (e.loadout.weapons.filter fun m => m.weapon.kind.isContinuous).map fun m =>
    .harm (some e.id) (m.weapon.baseDamage * 0.1) (.weapon m.weapon.kind)

section Bout

variable (scene : Scene) (current : List FighterState) (attacker target : Nat) (speed : Float32)

/-- What a strike does to the one who strikes. -/
def spends : List Deed :=
  match scene.living? current attacker, scene.living? current target with
  | some (e, me), some _ => spent me e
  | _, _ => []

/-- What a strike does to the one who is struck. -/
def deals : List Deed :=
  match scene.living? current attacker, scene.living? current target with
  | some (e, me), some (opponent, them) => dealt scene me them e opponent speed
  | _, _ => []

/-- What spinners do to the one they touch. -/
def grinds : List Deed :=
  match scene.living? current attacker with
  | some (e, _) => ground e
  | none => []

def strikeDeeds : List (Nat × Deed) :=
  (spends scene current attacker target).map (attacker, ·)
    ++ (deals scene current attacker target speed).map (target, ·)

def grindDeeds : List (Nat × Deed) :=
  (grinds scene current attacker).map (target, ·)

end Bout

/-- The deeds of one contact between fighters. -/
def deeds (scene : Scene) (current : List FighterState) (c : Contact) : List (Nat × Deed) :=
  match c.other with
  | .body other =>
    [(c.body, .touch), (other, .touch)]
      ++ (if c.isNew then
            strikeDeeds scene current c.body other c.speed
              ++ strikeDeeds scene current other c.body c.speed
          else [])
      ++ grindDeeds scene current c.body other ++ grindDeeds scene current other c.body
  | _ => []

end Combat

namespace Hazards

/-- What a zone does to who is in it. -/
def zoneDeeds (h : Hazard) : List Deed :=
  match h.kind with
  | .spike => [.prick, .harm none (spikeDamage h.damage) .spikes]
  | .pit => [.drop]

/-- What the arena does about one contact, always to the body that is named. -/
def deeds (scene : Scene) (c : Contact) : List Deed :=
  match c.other with
  | .wall _ =>
    if !c.isNew || c.speed ≤ wallThreshold then []
    else [.harm none ((c.speed - wallThreshold) * 2) .wall]
  | .sensor i => (scene.arena.hazards[i]?.map zoneDeeds).getD []
  | .body _ => []

end Hazards

namespace Ruling

/-- All deeds of the ruling on a tick. -/
def deeds (scene : Scene) (current : List FighterState) (contacts : List Contact) :
    List (Nat × Deed) :=
  contacts.flatMap (Combat.deeds scene current)
    ++ contacts.flatMap fun c => (Hazards.deeds scene c).map (c.body, ·)

/-- Does a deed at its place; where there is no fighter, nothing. -/
def perform (scene : Scene) (r : Ruling) (d : Nat × Deed) : Ruling :=
  match scene.roster.get? d.1, r.states[d.1]? with
  | some e, some s =>
    let fate := d.2.effect scene.timestamp e s
    { states := r.states.set d.1 fate.state
      damage := r.damage ++ fate.damage
      pushes := r.pushes ++ fate.pushes.map (d.1, ·)
      unscorable := r.unscorable || fate.unscorable }
  | _, _ => r

/-! ## The ruling performs its deeds -/

/-- One state for each entrant. -/
def Full (scene : Scene) (r : Ruling) : Prop := r.states.length = scene.roster.size

variable {scene : Scene} {r : Ruling}

theorem perform_of_lookup {d : Nat × Deed} {e : Entrant} {s : FighterState}
    (entered : scene.roster.get? d.1 = some e) (lookup : r.states[d.1]? = some s) :
    r.perform scene d =
      { states := r.states.set d.1 (d.2.effect scene.timestamp e s).state
        damage := r.damage ++ (d.2.effect scene.timestamp e s).damage
        pushes := r.pushes ++ (d.2.effect scene.timestamp e s).pushes.map (d.1, ·)
        unscorable := r.unscorable || (d.2.effect scene.timestamp e s).unscorable } := by
  unfold perform
  rw [entered, lookup]

theorem perform_of_missing {d : Nat × Deed} (missing : scene.roster.get? d.1 = none) :
    r.perform scene d = r := by
  unfold perform
  rw [missing]

theorem length_perform (r : Ruling) (d : Nat × Deed) :
    (r.perform scene d).states.length = r.states.length := by
  unfold perform
  split
  · exact List.length_set
  · rfl

/-- At a place there is an entrant with its state, or neither. -/
theorem Full.lookup (full : r.Full scene) (place : Nat) :
    (∃ e s, scene.roster.get? place = some e ∧ r.states[place]? = some s) ∨
      (scene.roster.get? place = none ∧ r.states[place]? = none) := by
  unfold Full Roster.size at full
  unfold Roster.get?
  by_cases inside : place < r.states.length
  · exact .inl ⟨_, _, List.getElem?_eq_getElem (full ▸ inside), List.getElem?_eq_getElem inside⟩
  · exact .inr ⟨List.getElem?_eq_none (by omega), List.getElem?_eq_none (by omega)⟩

theorem Full.after (full : r.Full scene) (d : Nat × Deed) : (r.perform scene d).Full scene :=
  (length_perform r d).trans full

theorem Full.afterAll (full : r.Full scene) (ds : List (Nat × Deed)) :
    (ds.foldl (perform scene) r).Full scene := by
  induction ds generalizing r with
  | nil => exact full
  | cons d ds ih => exact ih (full.after d)

/-- A change of one state that records nothing. -/
theorem Full.modify_eq (full : r.Full scene) {place : Nat} {d : Deed}
    {change : FighterState → FighterState}
    (quiet : ∀ e s, d.effect scene.timestamp e s = .quiet (change s)) :
    r.modify place change = r.perform scene (place, d) := by
  rcases full.lookup place with ⟨e, s, entered, lookup⟩ | ⟨missing, outside⟩
  · rw [perform_of_lookup entered lookup, quiet]
    have changed : r.states.modify place change = r.states.set place (change s) := by
      obtain ⟨inside, rfl⟩ := List.getElem?_eq_some_iff.mp lookup
      rw [List.modify_eq_set_get change inside]
      rfl
    simp [modify, Fate.quiet, changed]
  · have changed : r.states.modify place change = r.states :=
      List.modify_eq_self (List.getElem?_eq_none_iff.mp outside)
    rw [perform_of_missing missing, modify, changed]

theorem Full.touch_eq (full : r.Full scene) (place : Nat) :
    (r.mark place fun s => { s with inContact := true }) = r.perform scene (place, .touch) :=
  full.modify_eq fun _ _ => rfl

theorem Full.prick_eq (full : r.Full scene) (place : Nat) :
    (r.mark place fun s => { s with onSpikes := true }) = r.perform scene (place, .prick) :=
  full.modify_eq fun _ _ => rfl

theorem Full.push_eq (full : r.Full scene) {place : Nat} (inside : place < scene.roster.size)
    (force : Vector2) :
    { r with pushes := r.pushes ++ [(place, force)] } = r.perform scene (place, .push force) := by
  rcases full.lookup place with ⟨e, s, entered, lookup⟩ | ⟨-, outside⟩
  · rw [perform_of_lookup entered lookup]
    simp [Deed.effect, Fate.quiet, set_of_lookup lookup]
  · have short := List.getElem?_eq_none_iff.mp outside
    unfold Full at full
    omega

/-- A hit is harm by name: damage that is not positive would not get through anyway. -/
theorem Full.hit_eq (full : r.Full scene) (attacker : Option Nat) (place : Nat) (raw : Float32)
    (cause : Cause) :
    r.hit scene attacker place raw cause =
      r.perform scene
        (place, .harm ((attacker.bind scene.roster.get?).map Entrant.id) raw cause) := by
  rcases full.lookup place with ⟨e, s, entered, lookup⟩ | ⟨missing, outside⟩
  · rw [perform_of_lookup entered lookup]
    unfold hit Deed.effect
    rw [entered, lookup]
    dsimp only
    generalize known : armorReduced raw e.stats.damageReduction = applied
    have number : applied ≠ .nan := known ▸ ne_nan_of_le_right (zero_le_larger _)
    by_cases through : s.isAlive = true ∧ 0 < applied
    · obtain ⟨alive, positive⟩ := through
      have notZero : ¬ applied ≤ 0 := not_le_of_less positive
      have hurts : ¬ raw ≤ 0 := fun harmless =>
        notZero (known ▸ armorReduced_not_positive harmless _)
      rw [if_neg (by simp [alive, notZero, hurts]), if_pos ⟨alive, positive⟩]
      by_cases range : 0 ≤ s.maxHp
      · rw [FighterState.damage?_of_alive alive notZero range, if_pos range]
        simp [Fate.quiet]
      · have unanswered : s.damage? applied = none := by
          unfold FighterState.damage?
          rw [if_neg (by simp [alive, notZero]), if_neg range]
        rw [unanswered, if_neg range]
        simp [Fate.quiet, set_of_lookup lookup]
    · have spared : (!s.isAlive || decide (raw ≤ 0) || decide (applied ≤ 0)) = true := by
        by_cases alive : s.isAlive = true
        · have below : applied ≤ 0 :=
            le_of_not_less zero_ne_nan number fun positive => through ⟨alive, positive⟩
          simp [below]
        · simp [alive]
      rw [if_pos spared, if_neg through]
      simp [Fate.quiet, set_of_lookup lookup]
  · rw [perform_of_missing missing, hit, missing]

theorem Full.pit_eq (full : r.Full scene) (place : Nat) :
    Hazards.pit scene place r = r.perform scene (place, .drop) := by
  rcases full.lookup place with ⟨e, s, entered, lookup⟩ | ⟨missing, outside⟩
  · rw [perform_of_lookup entered lookup]
    unfold Hazards.pit Deed.effect
    rw [lookup]
    by_cases alive : s.isAlive = true
    · simp [alive, Fate.quiet]
    · simp [alive, Fate.quiet, set_of_lookup lookup]
  · rw [perform_of_missing missing, Hazards.pit, outside]

/-- Steps that each perform some deeds together perform them all. -/
theorem foldl_eq_perform {α : Type} {f : Ruling → α → Ruling} {ds : α → List (Nat × Deed)}
    (each : ∀ {r : Ruling}, r.Full scene → ∀ x, f r x = (ds x).foldl (perform scene) r) :
    ∀ (xs : List α) {r : Ruling}, r.Full scene →
      xs.foldl f r = (xs.flatMap ds).foldl (perform scene) r
  | [], _, _ => rfl
  | x :: xs, r, full => by
      rw [List.foldl_cons, List.flatMap_cons, List.foldl_append, each full x]
      exact foldl_eq_perform each xs (full.afterAll (ds x))

theorem kicks_eq (scene : Scene) (me them : FighterState) (place : Nat) (weapons : List Mounted) :
    ∀ slot, Combat.kicks scene me them place slot weapons =
      (Combat.kicks scene me them 0 slot weapons).map fun k => (place, k.2) := by
  induction weapons with
  | nil => exact fun _ => rfl
  | cons m weapons ih =>
      intro slot
      unfold Combat.kicks
      split
      · rw [ih, List.map_cons]
      · exact ih _

theorem Full.pushes_eq {place : Nat} (inside : place < scene.roster.size) :
    ∀ (kicks : List (Nat × Vector2)) {r : Ruling}, r.Full scene →
      { r with pushes := r.pushes ++ kicks.map fun k => (place, k.2) } =
        (kicks.map fun k => (place, Deed.push k.2)).foldl (perform scene) r
  | [], r, _ => by simp
  | k :: kicks, r, full => by
      have later := Full.pushes_eq inside kicks (full.after (place, .push k.2))
      rw [List.map_cons, List.map_cons, List.foldl_cons, ← later, ← full.push_eq inside]
      simp

theorem Full.triggers_eq (full : r.Full scene) (place : Nat) (slots : List (Nat × Float32)) :
    slots.foldl (fun r t => r.modify place fun s => s.trigger t.1 t.2) r =
      (slots.map fun t => (place, Deed.trigger t.1 t.2)).foldl (perform scene) r := by
  rw [List.map_eq_flatMap]
  refine foldl_eq_perform ?_ slots full
  intro r full t
  exact full.modify_eq fun _ _ => rfl

/-- Without two living fighters there is no strike. -/
theorem strike_of_missing {current : List FighterState} {attacker target : Nat}
    (missing : scene.living? current attacker = none ∨ scene.living? current target = none)
    (speed : Float32) (r : Ruling) : Combat.strike scene current attacker target speed r = r := by
  unfold Combat.strike
  split
  · rename_i me them e opponent here there entered entered'
    split
    · rename_i alive
      rw [Bool.and_eq_true] at alive
      have first := Scene.living?_eq_some_iff.mpr ⟨entered, here, alive.1⟩
      have second := Scene.living?_eq_some_iff.mpr ⟨entered', there, alive.2⟩
      simp [first, second] at missing
    · rfl
  · rfl

/-- A strike performs its deeds, of which there are none unless both are alive. -/
theorem Full.strike_eq (full : r.Full scene) (current : List FighterState)
    (attacker target : Nat) (speed : Float32) :
    Combat.strike scene current attacker target speed r =
      (Combat.strikeDeeds scene current attacker target speed).foldl (perform scene) r := by
  cases first : scene.living? current attacker with
  | none =>
      rw [strike_of_missing (.inl first)]
      simp [Combat.strikeDeeds, Combat.spends, Combat.deals, first]
  | some striker =>
      cases second : scene.living? current target with
      | none =>
          rw [strike_of_missing (.inr second)]
          simp [Combat.strikeDeeds, Combat.spends, Combat.deals, first, second]
      | some struck =>
          obtain ⟨e, me⟩ := striker
          obtain ⟨opponent, them⟩ := struck
          obtain ⟨entered, here, alive⟩ := Scene.living?_eq_some_iff.mp first
          obtain ⟨entered', there, alive'⟩ := Scene.living?_eq_some_iff.mp second
          have inside : target < scene.roster.size := (List.getElem?_eq_some_iff.mp entered').1
          let slots := Combat.triggered me 0 e.loadout.weapons
          let kicks := Combat.kicks scene me them 0 0 e.loadout.weapons
          have cooled := full.triggers_eq attacker slots
          have fullCooled := full.afterAll (slots.map fun t => (attacker, Deed.trigger t.1 t.2))
          have kicked := Full.pushes_eq inside kicks fullCooled
          have fullKicked := fullCooled.afterAll (kicks.map fun k => (target, Deed.push k.2))
          unfold Combat.strike
          rw [here, there, entered, entered']
          dsimp only
          rw [if_pos (by rw [alive, alive']; rfl), cooled, kicks_eq scene me them target, kicked,
            fullKicked.hit_eq]
          simp [Combat.strikeDeeds, Combat.spends, Combat.deals, Combat.spent, Combat.dealt,
            Combat.strikeHarm, Function.comp_def, first, second, entered, slots, kicks]

/-- Spinners at work perform their deeds. -/
theorem Full.grind_eq (full : r.Full scene) (current : List FighterState)
    (attacker target : Nat) :
    Combat.grind scene current attacker target r =
      (Combat.grindDeeds scene current attacker target).foldl (perform scene) r := by
  unfold Combat.grindDeeds Combat.grinds
  split
  · rename_i e me found
    obtain ⟨entered, here, alive⟩ := Scene.living?_eq_some_iff.mp found
    unfold Combat.grind Combat.ground
    rw [here, entered]
    dsimp only
    rw [if_pos alive, List.map_map, List.map_eq_flatMap]
    refine foldl_eq_perform ?_ _ full
    intro r full m
    simp [full.hit_eq, entered]
  · rename_i missing
    unfold Combat.grind
    split
    · rename_i me e here entered
      split
      · rename_i alive
        have found := Scene.living?_eq_some_iff.mpr ⟨entered, here, alive⟩
        simp [found] at missing
      · rfl
    · rfl

theorem Full.combat_eq (full : r.Full scene) (current : List FighterState) (c : Contact) :
    Combat.resolveContact scene current r c =
      (Combat.deeds scene current c).foldl (perform scene) r := by
  unfold Combat.resolveContact Combat.deeds
  cases c.other with
  | wall side => rfl
  | sensor place => rfl
  | body other =>
      have fullTouched := (full.after (c.body, .touch)).after (other, .touch)
      have struck := fullTouched.strike_eq current c.body other c.speed
      have fullStruck :=
        fullTouched.afterAll (Combat.strikeDeeds scene current c.body other c.speed)
      dsimp only
      rw [full.touch_eq, (full.after _).touch_eq]
      split
      · have fullBoth := fullStruck.afterAll (Combat.strikeDeeds scene current other c.body c.speed)
        rw [struck, fullStruck.strike_eq, fullBoth.grind_eq, (fullBoth.afterAll _).grind_eq]
        simp
      · rw [fullTouched.grind_eq, (fullTouched.afterAll _).grind_eq]
        simp

theorem Full.hazards_eq (full : r.Full scene) (c : Contact) :
    Hazards.resolveContact scene r c =
      ((Hazards.deeds scene c).map (c.body, ·)).foldl (perform scene) r := by
  unfold Hazards.resolveContact Hazards.deeds
  cases c.other with
  | body other => rfl
  | wall side =>
      dsimp only
      unfold Hazards.wall
      split
      · rfl
      · exact full.hit_eq none c.body _ .wall
  | sensor i =>
      dsimp only
      cases scene.arena.hazards[i]? with
      | none => rfl
      | some h =>
          cases kind : h.kind with
          | spike =>
              simp only [Option.map_some, Option.getD_some, Hazards.zoneDeeds, kind]
              unfold Hazards.spikes
              rw [full.prick_eq, (full.after _).hit_eq]
              rfl
          | pit =>
              simp only [Option.map_some, Option.getD_some, Hazards.zoneDeeds, kind]
              exact full.pit_eq c.body

/-- The ruling on contacts performs its deeds in order. -/
theorem ofContacts_eq_perform {scene : Scene} {current next : List FighterState}
    (full : next.length = scene.roster.size) (contacts : List Contact) :
    ofContacts scene current next contacts =
      (deeds scene current contacts).foldl (perform scene) (start next) := by
  have begun : (start next).Full scene := full
  have fought := foldl_eq_perform (f := Combat.resolveContact scene current)
    (fun {r} (full : r.Full scene) c => full.combat_eq current c) contacts begun
  have suffered := foldl_eq_perform (f := Hazards.resolveContact scene)
    (fun {r} (full : r.Full scene) c => full.hazards_eq c) contacts
    (begun.afterAll (contacts.flatMap (Combat.deeds scene current)))
  unfold ofContacts Combat.resolve Hazards.resolve deeds
  rw [fought, suffered, List.foldl_append]

end Ruling

end RobotCombat
