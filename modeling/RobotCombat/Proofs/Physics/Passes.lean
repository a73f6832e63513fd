/-
# RobotCombat.Proofs.Physics.Passes — what a step finds, and how it takes it down

A step lets bodies meet each other (`met`), then the walls (`walled`), then the sensors, and
appends what these passes find (`found`). The sorted meetings are taken down one after the
other: each becomes a contact, with its phase looked up in the pairs that the step before
left, and its pair enters the set that this step leaves.

* `foldl_takeDown`: what is taken down, in one equation;
* `tracked_step`: after a step the touching pairs are those of the contacts.
-/
import Mathlib.Data.List.Basic
import RobotCombat.Physics.World

namespace RobotCombat

set_option autoImplicit false

namespace World

/-- The bodies of a step after they met each other, with their meetings. -/
def met (w : World) (dtMs : Float32) : List Body × List Meeting :=
  let advanced := w.bodies.map (·.advance w.settings (dtMs / tickMs))
  meetPairs w.settings advanced (placePairs advanced.length)

/-- The bodies of a step after they met the walls, with the walls they met. -/
def walled (w : World) (dtMs : Float32) : List (Body × List (WallSide × Float32)) :=
  (w.met dtMs).1.map (·.collideWalls w.settings w.bounds WallSide.all)

/-- What the passes of a step find, in the order in which they find it. -/
def found (w : World) (dtMs : Float32) : List Meeting :=
  let (walled, walls) := meetWalls w.settings w.bounds (w.met dtMs).1
  (w.met dtMs).2 ++ walls ++ meetSensors w.sensors walled

/-! ## Taking down -/

/-- Meetings that are taken down become contacts in their order, and their pairs touch. -/
theorem foldl_takeDown (previous : List (Nat × Touched)) (ms : List Meeting) :
    ∀ w : World, ms.foldl (takeDown previous) w =
      { w with
        contacts := w.contacts ++ ms.map (Meeting.toContact previous)
        touching := ms.foldl (fun touching m => touching.insert m.pair) w.touching } := by
  induction ms with
  | nil =>
      intro w
      simp only [List.foldl_nil, List.map_nil, List.append_nil]
  | cons m ms ih =>
      intro w
      have listed : (takeDown previous w m).contacts ++ ms.map (Meeting.toContact previous) =
          w.contacts ++ (m :: ms).map (Meeting.toContact previous) :=
        List.append_assoc w.contacts [_] _
      rw [List.foldl_cons, ih, listed]
      rfl

theorem mem_foldl_insert {pair : Nat × Touched} (ms : List Meeting) :
    ∀ touching : List (Nat × Touched),
      pair ∈ ms.foldl (fun touching m => touching.insert m.pair) touching ↔
        pair ∈ touching ∨ pair ∈ ms.map Meeting.pair := by
  induction ms with
  | nil => simp
  | cons m ms ih =>
      intro touching
      rw [List.foldl_cons, ih, List.mem_insert_iff, List.map_cons, List.mem_cons]
      tauto

/-! ## A step -/

section

variable (w : World) (dtMs : Float32)

/-- What a step makes of a world. -/
theorem step_eq :
    w.step dtMs =
      { w with
        bodies := (w.walled dtMs).map (·.1)
        contacts := (Meeting.sort (w.found dtMs)).map (Meeting.toContact w.touching)
        touching :=
          (Meeting.sort (w.found dtMs)).foldl (fun touching m => touching.insert m.pair) [] } :=
  foldl_takeDown w.touching (Meeting.sort (w.found dtMs)) _

@[simp] theorem settings_step : (w.step dtMs).settings = w.settings := by rw [step_eq]

@[simp] theorem bounds_step : (w.step dtMs).bounds = w.bounds := by rw [step_eq]

@[simp] theorem sensors_step : (w.step dtMs).sensors = w.sensors := by rw [step_eq]

theorem bodies_step : (w.step dtMs).bodies = (w.walled dtMs).map (·.1) := by rw [step_eq]

/-- The pairs that touch are those of the contacts. -/
def Tracked : Prop := ∀ pair, pair ∈ w.touching ↔ pair ∈ w.contacts.map Contact.pair

/-- In a world without contacts nothing touches. -/
theorem tracked_ofArena (a : Arena) (p : PhysicsSettings) : (ofArena a p).Tracked :=
  fun _ => Iff.rfl

/-- What a step leaves for the next one are the pairs of its contacts. -/
theorem tracked_step : (w.step dtMs).Tracked := by
  intro pair
  have named : Contact.pair ∘ Meeting.toContact w.touching = Meeting.pair := rfl
  rw [step_eq, mem_foldl_insert, List.map_map, named]
  simp only [List.not_mem_nil, false_or]

end

end World

end RobotCombat
