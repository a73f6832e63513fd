/-
# RobotCombat.Proofs.Match.Pushes — every push acts once

A force on a body comes from the drive of its fighter or from a knockback. Knockbacks wait in
the queue of the match from one tick to the next:

* `pushes_ofContacts`: the queue that a ruling leaves, contact by contact;
* `forces_driven`: what the drives and the queue add to the forces of a world;
* `steps_rested`: between ticks no force is left on any body, as every tick keeps it;
* `pushes_act_once`: the forces of a tick when the world moves, and after.
-/
import RobotCombat.Proofs.Damage.Clash
import RobotCombat.Proofs.Match.Tick
import RobotCombat.Proofs.Physics.Forces

namespace RobotCombat

set_option autoImplicit false

/-! ## The knockbacks of a ruling -/

namespace Combat

/-- The knockbacks of one fighter's strike on another. -/
def strikeKicks (scene : Scene) (current : List FighterState) (attacker target : Nat) :
    List (Nat × Vector2) :=
  match current[attacker]?, current[target]?, scene.roster.get? attacker,
      scene.roster.get? target with
  | some me, some them, some entrant, some _ =>
    if me.isAlive && them.isAlive then kicks scene me them target 0 entrant.loadout.weapons else []
  | _, _, _, _ => []

/-- The knockbacks of one contact: those of both strikes when two fighters have just met. -/
def knockbacks (scene : Scene) (current : List FighterState) (c : Contact) :
    List (Nat × Vector2) :=
  match c.other with
  | .body other =>
    if c.isNew then strikeKicks scene current c.body other ++ strikeKicks scene current other c.body
    else []
  | _ => []

end Combat

section Ruling

variable {scene : Scene} {current : List FighterState}

/-- Damage pushes nobody. -/
theorem pushes_hit (attacker : Option Nat) (target : Nat) (raw : Float32) (cause : Cause)
    (r : Ruling) : (r.hit scene attacker target raw cause).pushes = r.pushes := by
  unfold Ruling.hit
  split
  · dsimp only
    split
    · rfl
    · split <;> rfl
  · rfl

theorem pushes_strike (attacker target : Nat) (speed : Float32) (r : Ruling) :
    (Combat.strike scene current attacker target speed r).pushes =
      r.pushes ++ Combat.strikeKicks scene current attacker target := by
  have nothing : r.pushes = r.pushes ++ [] := (List.append_nil _).symm
  unfold Combat.strike Combat.strikeKicks
  rcases current[attacker]? with _ | me
  · exact nothing
  rcases current[target]? with _ | them
  · exact nothing
  rcases scene.roster.get? attacker with _ | entrant
  · exact nothing
  rcases scene.roster.get? target with _ | opponent
  · exact nothing
  dsimp only
  by_cases alive : (me.isAlive && them.isAlive) = true
  · rw [if_pos alive, if_pos alive, pushes_hit]
    exact congrArg (· ++ _) (foldl_keeps
      (fun r (t : Nat × Float32) => Ruling.modify r attacker fun s => s.trigger t.1 t.2)
      Ruling.pushes (fun _ _ => rfl) _ r)
  · rw [if_neg alive, if_neg alive]
    exact nothing

theorem pushes_grind (attacker target : Nat) (r : Ruling) :
    (Combat.grind scene current attacker target r).pushes = r.pushes := by
  unfold Combat.grind
  split
  · split
    · exact foldl_keeps _ Ruling.pushes (fun r _ => pushes_hit _ _ _ _ r) _ r
    · rfl
  · rfl

theorem pushes_resolveContact (r : Ruling) (c : Contact) :
    (Combat.resolveContact scene current r c).pushes =
      r.pushes ++ Combat.knockbacks scene current c := by
  unfold Combat.resolveContact Combat.knockbacks
  cases c.other with
  | body other =>
      simp only [pushes_grind]
      cases c.isNew with
      | true =>
          simp only [if_true, pushes_strike, List.append_assoc]
          rfl
      | false => exact (List.append_nil _).symm
  | wall side => exact (List.append_nil _).symm
  | sensor place => exact (List.append_nil _).symm

/-- The arena pushes nobody. -/
theorem pushes_hazard (r : Ruling) (c : Contact) :
    (Hazards.resolveContact scene r c).pushes = r.pushes := by
  unfold Hazards.resolveContact
  split
  · unfold Hazards.wall
    split
    · rfl
    · exact pushes_hit _ _ _ _ r
  · split
    · split
      · exact pushes_hit _ _ _ _ _
      · unfold Hazards.pit
        split
        · split <;> rfl
        · rfl
    · rfl
  · rfl

/-- A ruling queues the knockbacks of its contacts in order, and no other push. -/
theorem pushes_ofContacts (next : List FighterState) (contacts : List Contact) :
    (Ruling.ofContacts scene current next contacts).pushes =
      contacts.flatMap (Combat.knockbacks scene current) := by
  have resolved : ∀ r : Ruling, (Combat.resolve scene current contacts r).pushes =
      r.pushes ++ contacts.flatMap (Combat.knockbacks scene current) := by
    unfold Combat.resolve
    induction contacts with
    | nil => exact fun r => (List.append_nil _).symm
    | cons c contacts ih =>
        intro r
        rw [List.foldl_cons, ih, pushes_resolveContact, List.flatMap_cons, List.append_assoc]
  exact (foldl_keeps _ Ruling.pushes pushes_hazard contacts _).trans (resolved (.start next))

theorem kicks_place {scene : Scene} {me them : FighterState} {place slot : Nat}
    {weapons : List Mounted} {kick : Nat × Vector2}
    (member : kick ∈ Combat.kicks scene me them place slot weapons) : kick.1 = place := by
  induction weapons generalizing slot with
  | nil => cases member
  | cons m weapons ih =>
      unfold Combat.kicks at member
      split at member
      · rcases List.mem_cons.mp member with rfl | later
        · rfl
        · exact ih later
      · exact ih member

theorem strikeKicks_inside {attacker target : Nat} {kick : Nat × Vector2}
    (member : kick ∈ Combat.strikeKicks scene current attacker target) :
    kick.1 < scene.roster.entrants.length := by
  unfold Combat.strikeKicks at member
  split at member
  · rename_i entered
    split at member
    · rw [kicks_place member]
      exact (List.getElem?_eq_some_iff.mp entered).1
    · cases member
  · cases member

/-- Every knockback is for an entrant. -/
theorem knockbacks_inside {c : Contact} {kick : Nat × Vector2}
    (member : kick ∈ Combat.knockbacks scene current c) :
    kick.1 < scene.roster.entrants.length := by
  unfold Combat.knockbacks at member
  split at member
  · split at member
    · rcases List.mem_append.mp member with first | second
      · exact strikeKicks_inside first
      · exact strikeKicks_inside second
    · cases member
  · cases member

end Ruling

namespace Battle

/-! ## The forces of a tick -/

variable (b : Battle)

/-- The force with which the fighter at a place carries out an intent, if it is alive. -/
def driveOf? (intent : Intent) (place : Nat) : Option Vector2 :=
  match b.combatant? place with
  | some me =>
    if me.state.isAlive then
      some (intent.direction * me.stats.speed * b.config.physics.forcePerSpeed)
    else none
  | none => none

/-- The drive of the fighter at a place in the next tick. -/
def driveAt? (place : Nat) : Option Vector2 := b.intents[place]?.bind (b.driveOf? · place)

theorem forces_drive (w : World) (intent : Intent) (place : Nat) :
    (b.drive w intent place).forces =
      w.forces.modify place (·.addAll (b.driveOf? intent place).toList) := by
  have unchanged : w.forces.modify place (·.addAll []) = w.forces := List.modify_id _ _
  unfold drive driveOf?
  cases b.combatant? place with
  | none => exact unchanged.symm
  | some me =>
      dsimp only
      split
      · rw [World.forces_spin, World.forces_push]
        rfl
      · exact unchanged.symm

theorem forces_drives (intents : List Intent) (w : World) :
    (intents.zipIdx.foldl (fun w i => b.drive w i.1 i.2) w).forces =
      w.forces.mapIdx fun place force =>
        force.addAll (intents[place]?.bind (b.driveOf? · place)).toList := by
  -- From the last intent: it is the one whose place is the number of those before it.
  induction intents using List.reverseRecOn with
  | nil =>
      apply List.ext_getElem?
      intro place
      rw [List.zipIdx_nil, List.foldl_nil, List.getElem?_mapIdx]
      cases w.forces[place]? <;> rfl
  | append_singleton intents last ih =>
      rw [List.zipIdx_append, List.foldl_append, Nat.zero_add]
      simp only [List.zipIdx_cons, List.zipIdx_nil, List.foldl_cons, List.foldl_nil]
      rw [forces_drive, ih]
      apply List.ext_getElem?
      intro place
      rw [List.getElem?_modify, List.getElem?_mapIdx, List.getElem?_mapIdx]
      cases w.forces[place]? with
      | none => rfl
      | some force =>
          refine congrArg some ?_
          dsimp only
          rcases Nat.lt_trichotomy place intents.length with before | rfl | after
          · rw [List.getElem?_append_left before, if_neg (Nat.ne_of_gt before)]
          · rw [List.getElem?_concat_length, List.getElem?_eq_none (Nat.le_refl _), if_pos rfl]
            rfl
          · have past : (intents ++ [last])[place]? = none :=
              List.getElem?_eq_none (by simpa using after)
            rw [List.getElem?_eq_none (Nat.le_of_lt after), past, if_neg (Nat.ne_of_lt after)]

/-- To each force on a body the drive of its fighter is added, and then its knockbacks. -/
theorem forces_driven :
    (b.driven b.intents).forces = b.world.forces.mapIdx fun place force =>
      force.addAll ((b.driveAt? place).toList ++ entriesAt place b.pushes) := by
  unfold driven
  rw [World.forces_foldl_push, forces_drives]
  apply List.ext_getElem?
  intro place
  simp only [List.getElem?_mapIdx, Option.map_map]
  cases b.world.forces[place]? with
  | none => rfl
  | some force => exact congrArg some List.foldl_append.symm

/-! ## Runs -/

/-- Between two ticks of a match with the fighters of a roster no body has a force on it, and
every push in the queue is for one of them. -/
structure Rested (r : Roster) (b : Battle) : Prop where
  roster : b.roster = r
  forces : b.world.forces = List.replicate r.entrants.length .zero
  queue : ∀ push ∈ b.pushes, push.1 < r.entrants.length

variable {r : Roster}

theorem start_rested (r : Roster) (a : Arena) (c : MatchConfig) : (start r a c).Rested r where
  roster := rfl
  forces := by
    have bodies := World.bodies_foldl_addBody (fun e : Entrant => e.spawn)
      (fun e => e.stats.radius) (fun e => e.stats.weight) r.entrants (.ofArena a c.physics)
    show ((start r a c).world.bodies).map _ = _
    unfold start
    dsimp only
    rw [bodies, List.eq_replicate_iff]
    constructor
    · simp [World.ofArena]
    · intro force member
      obtain ⟨b, rest, rfl⟩ := List.mem_map.mp member
      obtain ⟨e, -, rfl⟩ := List.mem_map.mp (show b ∈ r.entrants.map _ from rest)
      rfl
  queue := fun _ member => by cases member

theorem Rested.length_bodies {b : Battle} (rested : b.Rested r) :
    b.world.bodies.length = r.entrants.length := by
  rw [← World.length_forces, rested.forces, List.length_replicate]

/-- A tick leaves no force behind, and queues pushes of entrants only. -/
theorem Rested.tickOnce {b : Battle} (rested : b.Rested r) : b.tickOnce.Rested r where
  roster := b.tickOnce_roster.trans rested.roster
  forces := by
    have bodies := b.driven_keeps (·.bodies.length) World.length_push World.length_spin b.intents
    rw [tickOnce_world, nextWorld, World.forces_step, bodies, rested.length_bodies]
  queue := by
    intro push member
    rw [tickOnce_eq] at member
    have queued : push ∈ b.ruling.pushes := member
    rw [ruling, pushes_ofContacts] at queued
    obtain ⟨contact, -, thrown⟩ := List.mem_flatMap.mp queued
    have inside := knockbacks_inside thrown
    rwa [show b.scene.roster = r from rested.roster] at inside

theorem steps_rested (r : Roster) (a : Arena) (c : MatchConfig) (n : Nat) :
    (steps n (start r a c)).Rested r :=
  steps_invariant (P := Rested r) (fun _ _ rested => rested.tickOnce) n (start_rested r a c)

theorem steps_lengths (r : Roster) (a : Arena) (c : MatchConfig) (n : Nat) :
    (steps n (start r a c)).states.length = r.entrants.length ∧
      (steps n (start r a c)).intents.length = r.entrants.length := by
  constructor
  · have ids := congrArg List.length (steps_ids (start r a c) n)
    rw [List.length_map, List.length_map] at ids
    exact ids.trans (List.length_map _)
  · have controllers : (steps n (start r a c)).controllers.length = r.entrants.length :=
      steps_invariant (P := fun b => b.controllers.length = r.entrants.length)
        (fun b _ same => b.length_controllers.trans same) n (List.length_map _)
    simpa [intents, decisions] using controllers

/-- Every push acts once. In a tick of a match the force on each body when the world moves is
the drive of its fighter, if that was alive when the tick began, and then the knockbacks that
the tick before ruled on it, in their order, whether it is alive or not. The first tick has
no knockbacks. After the move no force is left on any body; and no knockback is for a place
without a body. -/
theorem pushes_act_once (r : Roster) (a : Arena) (c : MatchConfig) (n : Nat)
    (going : (steps n (start r a c)).isFinished = false) :
    let b := steps n (start r a c)
    (b.driven b.intents).forces =
      (List.range r.entrants.length).map (fun place =>
        Vector2.zero.addAll ((b.driveAt? place).toList ++ entriesAt place b.pushes)) ∧
    (∀ place < r.entrants.length, ∃ e s intent, r.get? place = some e ∧
      b.states[place]? = some s ∧ b.intents[place]? = some intent ∧
      b.driveAt? place = if s.isAlive then
        some (intent.direction * e.stats.speed * c.physics.forcePerSpeed) else none) ∧
    (n = 0 → b.pushes = []) ∧
    (∀ m, n = m + 1 →
      let before := steps m (start r a c)
      b.pushes = before.ruling.pushes ∧
      before.ruling.pushes =
        before.nextWorld.contacts.flatMap (Combat.knockbacks before.scene before.states)) ∧
    (∀ push ∈ b.pushes, push.1 < r.entrants.length) ∧
    b.step.world = (b.driven b.intents).step c.tickMs ∧
    b.step.world.forces = List.replicate r.entrants.length .zero := by
  intro b
  have rested : b.Rested r := steps_rested r a c n
  have config : b.config = c := steps_config (start r a c) n
  refine ⟨?_, ?_, ?_, ?_, rested.queue, ?_, ?_⟩
  · rw [forces_driven, rested.forces]
    apply List.ext_getElem
    · simp
    · intro place _ _
      simp
  · intro place inside
    obtain ⟨states, intents⟩ := steps_lengths r a c n
    have state := List.getElem?_eq_getElem (l := b.states) (states.symm ▸ inside)
    have intent := List.getElem?_eq_getElem (l := b.intents) (intents.symm ▸ inside)
    have entered : r.get? place = some _ := List.getElem?_eq_getElem inside
    refine ⟨_, _, _, entered, state, intent, ?_⟩
    simp only [driveAt?, intent, Option.bind_some, driveOf?, combatant?, rested.roster, entered,
      state, config]
    rfl
  · rintro rfl
    rfl
  · rintro m rfl
    have goes : (steps m (start r a c)).isFinished = false := by
      by_contra finished
      have same := steps_succ m (start r a c)
      rw [step_of_isFinished (by simpa using finished)] at same
      exact finished (same ▸ going)
    refine ⟨?_, pushes_ofContacts _ _⟩
    show (steps (m + 1) (start r a c)).pushes = _
    rw [steps_succ_of_going goes, tickOnce_eq]
  · rw [step_of_not_isFinished going, tickOnce_world, nextWorld, config]
  · rw [step_of_not_isFinished going]
    exact rested.tickOnce.forces

/-- A fighter with a flipper and one with a hammer, at arm's length. -/
def tossUp : Roster :=
  ⟨[.of Combat.tosser ⟨390, 300⟩ .stock, .of Roster.smith ⟨410, 300⟩ .stock]⟩

/-- The flipper's kick of the first tick acts on the second one, after the drive of its
target, and is used up by it. -/
theorem tossUp_kicks_once :
    let b := steps 1 (start tossUp .plain .usual)
    b.isFinished = false ∧ entriesAt 1 b.pushes = [⟨290, -175⟩] ∧
      (b.driven b.intents).forces[1]? =
        some (Vector2.zero.addAll ((b.driveAt? 1).toList ++ [⟨290, -175⟩])) ∧
      b.step.world.forces = [.zero, .zero] := by
  intro b
  have going : b.isFinished = false := by decide +kernel
  have kicks : entriesAt 1 b.pushes = [⟨290, -175⟩] := by decide +kernel
  obtain ⟨forces, -, -, -, -, -, after⟩ := pushes_act_once tossUp .plain .usual 1 going
  refine ⟨going, kicks, ?_, after⟩
  rw [forces, ← kicks]
  rfl

end Battle

end RobotCombat
