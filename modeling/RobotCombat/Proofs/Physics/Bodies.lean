/-
# RobotCombat.Proofs.Physics.Bodies — bodies keep their places

No force, no turn and no step adds a body or takes one away, so the place that a
body got when it was added names it for the whole match. Bodies that meet something are moved
and get another velocity, and nothing else about them changes.

* `length_step`: a step keeps the number of bodies;
* `bodies_foldl_addBody`: bodies stand in the order in which they were added;
* `map_step`: what does not depend on place and velocity is after a step what it was once
  the bodies had advanced.
-/
import RobotCombat.Proofs.Physics.Passes
import RobotCombat.Proofs.Places

namespace RobotCombat

set_option autoImplicit false

namespace World

@[simp] theorem length_modifyBody (w : World) (place : Nat) (change : Body → Body) :
    (w.modifyBody place change).bodies.length = w.bodies.length :=
  List.length_modify _ _ _

@[simp] theorem length_push (w : World) (place : Nat) (force : Vector2) :
    (w.push place force).bodies.length = w.bodies.length :=
  w.length_modifyBody place _

@[simp] theorem length_spin (w : World) (place : Nat) (omega : Float32) :
    (w.spin place omega).bodies.length = w.bodies.length :=
  w.length_modifyBody place _

theorem length_meetPair (p : PhysicsSettings) (bodies : List Body) (pair : Nat × Nat) :
    (meetPair p bodies pair).1.length = bodies.length := by
  unfold meetPair
  split
  · split
    · rw [List.length_set, List.length_set]
    · rfl
  · rfl

theorem length_meetPairs (p : PhysicsSettings) :
    ∀ (pairs : List (Nat × Nat)) (bodies : List Body),
      (meetPairs p bodies pairs).1.length = bodies.length
  | [], _ => rfl
  | pair :: pairs, bodies => by
      have first := length_meetPair p bodies pair
      have later := length_meetPairs p pairs (meetPair p bodies pair).1
      exact later.trans first

theorem length_walled (w : World) (dtMs : Float32) :
    (w.walled dtMs).length = w.bodies.length := by
  unfold walled met
  simp only [List.length_map, length_meetPairs]

/-- A step keeps the number of bodies. -/
theorem length_step (w : World) (dtMs : Float32) :
    (w.step dtMs).bodies.length = w.bodies.length := by
  rw [bodies_step, List.length_map, length_walled]

/-- A world of bodies added one after the other. -/
theorem bodies_foldl_addBody {α : Type} (position : α → Vector2) (radius mass : α → Float32) :
    ∀ (xs : List α) (w : World),
      (xs.foldl (fun w x => w.addBody (position x) (radius x) (mass x)) w).bodies =
        w.bodies ++ xs.map fun x => .rest (position x) (radius x) (mass x)
  | [], w => (List.append_nil _).symm
  | x :: xs, w => by
      have later := bodies_foldl_addBody position radius mass xs
        (w.addBody (position x) (radius x) (mass x))
      rw [List.foldl_cons, later, List.map_cons]
      exact List.append_assoc w.bodies [_] _

end World

/-! ## What a meeting leaves alone -/

section Readings

variable {β : Type} {reading : Body → β}
  (steady : ∀ b position velocity, reading (Body.moved b position velocity) = reading b)
  {p : PhysicsSettings}

include steady

namespace Body

theorem separate_keeps (normal : Vector2) (overlap total : Float32) (a b : Body) :
    reading (separate p normal overlap total a b).1 = reading a ∧
      reading (separate p normal overlap total a b).2 = reading b := by
  unfold separate
  dsimp only
  split <;> exact ⟨steady _ _ _, steady _ _ _⟩

theorem collide?_keeps {a b a' b' : Body} {speed : Float32}
    (met : a.collide? p b = some (a', b', speed)) :
    reading a' = reading a ∧ reading b' = reading b := by
  unfold collide? at met
  dsimp only at met
  split at met
  · cases met
  · split at met
    · simp only [Option.some.injEq, Prod.mk.injEq] at met
      obtain ⟨rfl, rfl, -⟩ := met
      exact separate_keeps steady _ _ _ a b
    · simp only [Option.some.injEq, Prod.mk.injEq] at met
      obtain ⟨rfl, rfl, -⟩ := met
      exact ⟨rfl, rfl⟩

theorem collideWall?_keeps {bounds : Bounds} {side : WallSide} {b b' : Body} {impact : Float32}
    (met : b.collideWall? p bounds side = some (b', impact)) : reading b' = reading b := by
  unfold collideWall? at met
  dsimp only at met
  split at met
  · cases met
  · simp only [Option.some.injEq, Prod.mk.injEq] at met
    obtain ⟨rfl, -⟩ := met
    exact steady _ _ _

theorem collideWalls_keeps (bounds : Bounds) (sides : List WallSide) :
    ∀ b : Body, reading (b.collideWalls p bounds sides).1 = reading b := by
  induction sides with
  | nil => intro b; rfl
  | cons side sides ih =>
      intro b
      unfold collideWalls
      cases met : b.collideWall? p bounds side with
      | none => exact ih b
      | some result => exact (ih result.1).trans (collideWall?_keeps steady met)

end Body

namespace World

theorem map_meetPair (bodies : List Body) (pair : Nat × Nat) :
    (meetPair p bodies pair).1.map reading = bodies.map reading := by
  unfold meetPair
  cases first : bodies[pair.1]? with
  | none => rfl
  | some a =>
      cases second : bodies[pair.2]? with
      | none => rfl
      | some b =>
          cases met : a.collide? p b with
          | none => simp [met]
          | some result =>
              obtain ⟨same, same'⟩ := Body.collide?_keeps steady met
              have lookup : (bodies.map reading)[pair.1]? = some (reading a) := by simp [first]
              have lookup' : (bodies.map reading)[pair.2]? = some (reading b) := by simp [second]
              simp [met, List.map_set, same, same', set_of_lookup lookup, set_of_lookup lookup']

theorem map_meetPairs :
    ∀ (pairs : List (Nat × Nat)) (bodies : List Body),
      (meetPairs p bodies pairs).1.map reading = bodies.map reading
  | [], _ => rfl
  | pair :: pairs, bodies =>
      (map_meetPairs pairs (meetPair p bodies pair).1).trans (map_meetPair steady bodies pair)

/-- Only the advance of a step changes what does not depend on place and velocity. -/
theorem map_step (w : World) (dtMs : Float32) :
    (w.step dtMs).bodies.map reading =
      w.bodies.map fun b => reading (b.advance w.settings (dtMs / tickMs)) := by
  rw [bodies_step]
  simp only [walled, met, List.map_map, Function.comp_def, Body.collideWalls_keeps steady]
  rw [map_meetPairs steady, List.map_map]
  rfl

end World

end Readings

end RobotCombat
