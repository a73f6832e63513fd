/-
# RobotCombat.Proofs.Physics.Forces — what a body has been pushed with

A body adds up the forces it is pushed with until a step uses them. Read place by place:

* `forces_push`, `forces_foldl_push`: pushes add to the force of their own place, in order;
* `forces_step`: a step uses every force up.
-/
import RobotCombat.Proofs.Physics.Bodies

namespace RobotCombat

set_option autoImplicit false

/-- Forces added one after the other. -/
def Vector2.addAll (start : Vector2) (forces : List Vector2) : Vector2 :=
  forces.foldl (· + ·) start

/-- Entries that each add to their own place leave at a place the sum of its own ones. -/
theorem foldl_modify_eq_mapIdx (entries : List (Nat × Vector2)) (totals : List Vector2) :
    entries.foldl (fun totals entry => totals.modify entry.1 (· + entry.2)) totals =
      totals.mapIdx fun place total => total.addAll (entriesAt place entries) := by
  induction entries generalizing totals with
  | nil =>
      apply List.ext_getElem?
      intro place
      simp [Vector2.addAll]
  | cons entry entries ih =>
      rw [List.foldl_cons, ih]
      apply List.ext_getElem?
      intro place
      simp only [List.getElem?_mapIdx, List.getElem?_modify]
      cases totals[place]? with
      | none => rfl
      | some total =>
          obtain ⟨owner, force⟩ := entry
          by_cases own : owner = place
          · subst own
            simp [Vector2.addAll]
          · simp [own, entriesAt_cons_other]

namespace World

/-- The forces on the bodies. -/
def forces (w : World) : List Vector2 := w.bodies.map (·.force)

variable (w : World)

theorem length_forces : w.forces.length = w.bodies.length := List.length_map _

/-- A push adds to the force on its body. -/
theorem forces_push (place : Nat) (force : Vector2) :
    (w.push place force).forces = w.forces.modify place (· + force) := by
  apply map_modify_of_comm
  exact fun _ => rfl

@[simp] theorem forces_spin (place : Nat) (omega : Float32) :
    (w.spin place omega).forces = w.forces := by
  apply map_modify
  exact fun _ => rfl

/-- Pushes add up at each place in their order. -/
theorem forces_foldl_push (pushes : List (Nat × Vector2)) :
    (pushes.foldl (fun w p => w.push p.1 p.2) w).forces =
      w.forces.mapIdx fun place force => force.addAll (entriesAt place pushes) := by
  rw [← foldl_modify_eq_mapIdx]
  induction pushes generalizing w with
  | nil => rfl
  | cons p pushes ih => rw [List.foldl_cons, List.foldl_cons, ih, forces_push]

/-- A step uses every force up. -/
theorem forces_step (dtMs : Float32) :
    (w.step dtMs).forces = List.replicate w.bodies.length .zero := by
  have usedUp : (w.step dtMs).forces =
      w.bodies.map fun b => (b.advance w.settings (dtMs / tickMs)).force :=
    map_step (fun _ _ _ => rfl) w dtMs
  rw [usedUp, List.eq_replicate_iff]
  constructor
  · exact List.length_map _
  · intro force member
    obtain ⟨b, -, rfl⟩ := List.mem_map.mp member
    rfl

end World

end RobotCombat
