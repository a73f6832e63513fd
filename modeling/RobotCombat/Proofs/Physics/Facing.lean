/-
# RobotCombat.Proofs.Physics.Facing — bodies move no matter how they are turned

`unturned` forgets headings, turning and the rate of turning. Whatever bodies do to each
other and to walls does not look at them, so it is the same without them; a turn changes
nothing else, and a step of two worlds that agree without headings gives the same
contacts and worlds that agree again.

* `step_unturned` and `contacts_unturned`: the step and its contacts.
-/
import RobotCombat.Proofs.Physics.Meetings

namespace RobotCombat

set_option autoImplicit false

def PhysicsSettings.unturned (p : PhysicsSettings) : PhysicsSettings := { p with turnRate := 0 }

def Motion.unturned (m : Motion) : Motion := { m with angle := 0 }

namespace Body

/-- The body without heading and turning. -/
def unturned (b : Body) : Body := { b with motion := b.motion.unturned, omega := 0 }

variable (p : PhysicsSettings) (a b : Body)

/-- What is kept of a step without headings. Its new heading depends on the one before. -/
theorem advance_unturned (scale : Float32) :
    (b.unturned.advance p.unturned scale).unturned = (b.advance p scale).unturned := rfl

@[simp] theorem unturned_position : b.unturned.motion.position = b.motion.position := rfl

@[simp] theorem unturned_velocity : b.unturned.motion.velocity = b.motion.velocity := rfl

@[simp] theorem unturned_radius : b.unturned.radius = b.radius := rfl

@[simp] theorem unturned_inverseMass : b.unturned.inverseMass = b.inverseMass := rfl

@[simp] theorem moved_unturned (position velocity : Vector2) :
    b.unturned.moved position velocity = (b.moved position velocity).unturned := rfl

theorem separate_unturned (normal : Vector2) (overlap total : Float32) :
    separate p.unturned normal overlap total a.unturned b.unturned =
      ((separate p normal overlap total a b).1.unturned,
        (separate p normal overlap total a b).2.unturned) := by
  have restitution : p.unturned.restitution = p.restitution := rfl
  simp only [separate, restitution, unturned_position, unturned_velocity, unturned_inverseMass,
    moved_unturned]
  split <;> rfl

theorem collide?_unturned :
    a.unturned.collide? p.unturned b.unturned =
      (a.collide? p b).map fun after => (after.1.unturned, after.2.1.unturned, after.2.2) := by
  simp only [collide?, separate_unturned, unturned_position, unturned_velocity, unturned_radius,
    unturned_inverseMass]
  split
  · rfl
  · split <;> rfl

theorem collideWall?_unturned (bounds : Bounds) (side : WallSide) :
    b.unturned.collideWall? p.unturned bounds side =
      (b.collideWall? p bounds side).map fun after => (after.1.unturned, after.2) := by
  have restitution : p.unturned.restitution = p.restitution := rfl
  simp only [collideWall?, restitution, unturned_position, unturned_velocity, unturned_radius,
    moved_unturned]
  split <;> rfl

theorem collideWalls_unturned (bounds : Bounds) (sides : List WallSide) :
    b.unturned.collideWalls p.unturned bounds sides =
      ((b.collideWalls p bounds sides).1.unturned, (b.collideWalls p bounds sides).2) := by
  induction sides generalizing b with
  | nil => rfl
  | cons side sides ih =>
      unfold collideWalls
      rw [collideWall?_unturned]
      cases b.collideWall? p bounds side with
      | none => exact ih b
      | some after => simp only [Option.map_some, ih]

end Body

namespace World

/-- The world without headings. -/
def unturned (w : World) : World :=
  { w with settings := w.settings.unturned, bodies := w.bodies.map Body.unturned }

variable (w : World)

@[simp] theorem unturned_unturned : w.unturned.unturned = w.unturned := by
  have twice : Body.unturned ∘ Body.unturned = Body.unturned := rfl
  unfold unturned
  rw [List.map_map, twice]
  rfl

/-! ## Bodies, forces and turns -/

theorem push_unturned (place : Nat) (force : Vector2) :
    (w.push place force).unturned = w.unturned.push place force := by
  have bodies : (w.bodies.modify place (·.push force)).map Body.unturned =
      (w.bodies.map Body.unturned).modify place (·.push force) := by
    apply map_modify_of_comm
    exact fun _ => rfl
  unfold push modifyBody unturned
  rw [bodies]

theorem addBody_unturned (position : Vector2) (radius mass : Float32) :
    w.unturned.addBody position radius mass = (w.addBody position radius mass).unturned := by
  unfold addBody unturned
  rw [List.map_append]
  rfl

theorem spin_unturned (place : Nat) (omega : Float32) :
    (w.spin place omega).unturned = w.unturned := by
  have bodies : (w.bodies.modify place (·.spin omega)).map Body.unturned =
      w.bodies.map Body.unturned := by
    apply map_modify
    exact fun _ => rfl
  unfold spin modifyBody unturned
  rw [bodies]

/-! ## A step -/

variable (p : PhysicsSettings)

theorem meetPair_unturned (bodies : List Body) (pair : Nat × Nat) :
    meetPair p.unturned (bodies.map Body.unturned) pair =
      ((meetPair p bodies pair).1.map Body.unturned, (meetPair p bodies pair).2) := by
  unfold meetPair
  rw [List.getElem?_map, List.getElem?_map]
  cases bodies[pair.1]? <;> cases bodies[pair.2]? <;> try rfl
  next a b =>
    simp only [Option.map_some, Body.collide?_unturned]
    cases a.collide? p b with
    | none => rfl
    | some after => simp only [Option.map_some, List.map_set]

theorem meetPairs_unturned (pairs : List (Nat × Nat)) (bodies : List Body) :
    meetPairs p.unturned (bodies.map Body.unturned) pairs =
      ((meetPairs p bodies pairs).1.map Body.unturned, (meetPairs p bodies pairs).2) := by
  induction pairs generalizing bodies with
  | nil => rfl
  | cons pair pairs ih => simp only [meetPairs, meetPair_unturned, ih]

variable (dtMs : Float32)

/-- The bodies of a step, without headings, and their meetings with each other. -/
theorem met_unturned :
    (w.unturned.met dtMs).1.map Body.unturned = (w.met dtMs).1.map Body.unturned ∧
      (w.unturned.met dtMs).2 = (w.met dtMs).2 := by
  have advanced : (w.unturned.bodies.map (·.advance w.unturned.settings (dtMs / tickMs))).map
      Body.unturned = (w.bodies.map (·.advance w.settings (dtMs / tickMs))).map Body.unturned := by
    simp only [unturned, List.map_map]
    exact List.map_congr_left fun b _ => b.advance_unturned w.settings _
  have met : ∀ w : World, ((w.met dtMs).1.map Body.unturned, (w.met dtMs).2) =
      meetPairs w.settings.unturned
        ((w.bodies.map (·.advance w.settings (dtMs / tickMs))).map Body.unturned)
        (placePairs w.bodies.length) := by
    intro w
    simp only [World.met, meetPairs_unturned, List.length_map]
  have count : w.unturned.bodies.length = w.bodies.length := List.length_map _
  have settings : w.unturned.settings.unturned = w.settings.unturned := rfl
  have same := met w.unturned
  rw [advanced, count, settings, ← met w] at same
  exact Prod.mk.inj same

theorem walled_unturned :
    (w.unturned.walled dtMs).map (fun after => (after.1.unturned, after.2)) =
      (w.walled dtMs).map fun after => (after.1.unturned, after.2) := by
  have bodies : (w.unturned.met dtMs).1.map Body.unturned = (w.met dtMs).1.map Body.unturned :=
    (w.met_unturned dtMs).1
  have walls : ∀ w : World, (w.walled dtMs).map (fun after => (after.1.unturned, after.2)) =
      ((w.met dtMs).1.map Body.unturned).map
        (·.collideWalls w.settings.unturned w.bounds WallSide.all) := by
    intro w
    simp only [walled, List.map_map]
    exact List.map_congr_left fun b _ => (b.collideWalls_unturned _ _ _).symm
  rw [walls, walls, bodies]
  rfl

theorem sensed_unturned (b : Body) (sensors : List Sensor) (place : Nat) :
    sensed b.unturned place sensors = sensed b place sensors := by
  induction sensors generalizing place with
  | nil => rfl
  | cons s sensors ih =>
      simp only [sensed, ih]
      rfl

theorem meetingsOf_unturned (sensors : List Sensor) (pairs : List Meeting) (place : Nat)
    (after : Body × List (WallSide × Float32)) :
    meetingsOf sensors pairs place (after.1.unturned, after.2) =
      meetingsOf sensors pairs place after := by
  unfold meetingsOf
  rw [sensed_unturned]
  rfl

/-- The meetings of a step are no matter of headings. -/
theorem meetings_unturned : w.unturned.meetings dtMs = w.meetings dtMs := by
  have pairs : (w.unturned.met dtMs).2 = (w.met dtMs).2 :=
    (w.met_unturned dtMs).2
  have meetings : ∀ (pairs : List Meeting) (walled : List (Body × List (WallSide × Float32))),
      (walled.zipIdx.flatMap fun after => meetingsOf w.sensors pairs after.2 after.1) =
        (walled.map fun after => (after.1.unturned, after.2)).zipIdx.flatMap
          fun after => meetingsOf w.sensors pairs after.2 after.1 := by
    intro pairs walled
    rw [List.zipIdx_map, List.flatMap_map]
    exact List.flatMap_congr fun after _ =>
      (meetingsOf_unturned w.sensors pairs after.2 after.1).symm
  have sensors : w.unturned.sensors = w.sensors := rfl
  unfold World.meetings
  rw [sensors, pairs, meetings _ (w.walled dtMs), ← walled_unturned, ← meetings]

theorem contacts_unturned : (w.unturned.step dtMs).contacts = (w.step dtMs).contacts := by
  have touching : w.unturned.touching = w.touching := rfl
  rw [step_contacts, step_contacts, meetings_unturned, touching]

theorem step_unturned : (w.unturned.step dtMs).unturned = (w.step dtMs).unturned := by
  have bodies : ((w.unturned.walled dtMs).map (·.1)).map Body.unturned =
      ((w.walled dtMs).map (·.1)).map Body.unturned := by
    have walled := congrArg (List.map Prod.fst) (w.walled_unturned dtMs)
    rw [List.map_map, List.map_map] at walled
    rw [List.map_map, List.map_map]
    exact walled
  have split : ∀ w : World, (w.step dtMs).unturned =
      { w with
        settings := w.settings.unturned
        bodies := ((w.walled dtMs).map (·.1)).map Body.unturned
        contacts := (w.meetings dtMs).map (Meeting.toContact w.touching)
        touching := (w.meetings dtMs).foldl (fun touching m => touching.insert m.pair) [] } := by
    intro w
    rw [step_eq, sort_found]
    rfl
  rw [split, split, bodies, meetings_unturned]
  rfl

end World

end RobotCombat
