/-
# RobotCombat.Proofs.Physics.Sensors — what sensors notice has no effect

Bodies meet bodies and walls before anybody looks at the sensors, and nothing reads the
pair of a body and a sensor but the next step, for the phase of that very pair. So two worlds
with the same walls, settings and bodies (`Alike`) stay so under the same calls, whatever
sensors either of them has or gets on the way. Their contacts with bodies and walls, the
`solid` ones, are those of the `solidMeetings` of a step, with the phases that the pairs of
the solid contacts before it give (`solid_step`).

* `sensors_never_push`: the bodies of two such worlds move alike, and their solid contacts
  agree if they did to begin with.
-/
import RobotCombat.Catalog.Stock
import RobotCombat.Proofs.Physics.Stream

namespace RobotCombat

set_option autoImplicit false

def Touched.isSensor : Touched → Bool
  | .sensor _ => true
  | _ => false

namespace World

/-- The contacts with bodies and walls. -/
def solid (w : World) : List Contact := w.contacts.filter fun c => !c.other.isSensor

/-- The meetings of a step with bodies and walls. -/
def solidMeetings (w : World) (dtMs : Float32) : List Meeting :=
  (w.walled dtMs).zipIdx.flatMap fun after =>
    (w.met dtMs).2.filter (·.body = after.2)
      ++ after.1.2.map fun wall => ⟨after.2, .wall wall.1, wall.2⟩

variable {w w' : World} {dtMs : Float32}

theorem meetingsOf_solid {sensors : List Sensor} {pairs : List Meeting}
    (paired : ∀ m ∈ pairs, m.other.isBody = true) (place : Nat)
    (after : Body × List (WallSide × Float32)) :
    (meetingsOf sensors pairs place after).filter (fun m => !m.other.isSensor) =
      pairs.filter (·.body = place) ++ after.2.map fun wall => ⟨place, .wall wall.1, wall.2⟩ := by
  unfold meetingsOf
  rw [List.filter_append]
  have noSensor : ((sensed after.1 0 sensors).map fun s =>
      (⟨place, .sensor s, after.1.motion.velocity.length⟩ : Meeting)).filter
        (fun m => !m.other.isSensor) = [] := by
    refine List.filter_eq_nil_iff.mpr fun m member => ?_
    obtain ⟨s, -, rfl⟩ := List.mem_map.mp member
    nofun
  rw [noSensor, List.append_nil]
  refine List.filter_eq_self.mpr fun m member => ?_
  rcases List.mem_append.mp member with other | wall
  · have body := paired m (List.mem_of_mem_filter other)
    cases known : m.other with
    | sensor i =>
        rw [known] at body
        cases body
    | _ => rfl
  · obtain ⟨wall, -, rfl⟩ := List.mem_map.mp wall
    rfl

/-- The phase of a solid contact depends on the solid contacts before it. -/
theorem toContact_solid (tracked : w.Tracked) {m : Meeting} (solid : m.other.isSensor = false) :
    m.toContact w.touching = m.toContact (w.solid.map Contact.pair) := by
  have seen : m.pair ∈ w.touching ↔ m.pair ∈ w.solid.map Contact.pair := by
    rw [tracked m.pair, List.mem_map, List.mem_map]
    refine exists_congr fun c => and_congr_left fun same => ?_
    have other : c.other = m.other := congrArg Prod.snd same
    unfold World.solid
    rw [List.mem_filter, other, solid]
    exact (and_iff_left rfl).symm
  have same : w.touching.contains m.pair = (w.solid.map Contact.pair).contains m.pair := by
    rw [Bool.eq_iff_iff, List.contains_iff_mem, List.contains_iff_mem, seen]
  unfold Meeting.toContact
  rw [same]

theorem solid_of_solidMeetings {m : Meeting} (member : m ∈ w.solidMeetings dtMs) :
    m.other.isSensor = false := by
  obtain ⟨after, -, listed⟩ := List.mem_flatMap.mp member
  rcases List.mem_append.mp listed with other | wall
  · obtain ⟨j, named, -⟩ := mem_met (List.mem_of_mem_filter other)
    rw [named]
    rfl
  · obtain ⟨wall, -, rfl⟩ := List.mem_map.mp wall
    rfl

/-- The solid contacts of a step. -/
theorem solid_step (tracked : w.Tracked) (dtMs : Float32) :
    (w.step dtMs).solid =
      (w.solidMeetings dtMs).map (Meeting.toContact (w.solid.map Contact.pair)) := by
  have named : (fun c : Contact => !c.other.isSensor) ∘ Meeting.toContact w.touching =
      fun m => !m.other.isSensor := rfl
  have meetings : (w.meetings dtMs).filter (fun m => !m.other.isSensor) =
      w.solidMeetings dtMs := by
    rw [World.meetings, List.filter_flatMap]
    exact List.flatMap_congr fun after _ =>
      meetingsOf_solid (fun _ => isBody_of_mem_met) after.2 after.1
  calc (w.step dtMs).solid
      = (w.solidMeetings dtMs).map (Meeting.toContact w.touching) := by
        unfold solid
        rw [step_contacts, List.filter_map, named, meetings]
    _ = (w.solidMeetings dtMs).map (Meeting.toContact (w.solid.map Contact.pair)) :=
        List.map_congr_left fun m member =>
          toContact_solid tracked (solid_of_solidMeetings member)

/-! ## Two worlds -/

/-- Worlds with the same walls, settings and bodies. -/
structure Alike (w w' : World) : Prop where
  settings : w.settings = w'.settings
  bounds : w.bounds = w'.bounds
  bodies : w.bodies = w'.bodies

theorem Alike.met (alike : w.Alike w') (dtMs : Float32) : w.met dtMs = w'.met dtMs := by
  unfold World.met
  rw [alike.settings, alike.bodies]

theorem Alike.walled (alike : w.Alike w') (dtMs : Float32) : w.walled dtMs = w'.walled dtMs := by
  unfold World.walled
  rw [alike.met, alike.settings, alike.bounds]

theorem Alike.step (alike : w.Alike w') (dtMs : Float32) :
    (w.step dtMs).Alike (w'.step dtMs) where
  settings := by rw [settings_step, settings_step, alike.settings]
  bounds := by rw [bounds_step, bounds_step, alike.bounds]
  bodies := by rw [bodies_step, bodies_step, alike.walled]

theorem Alike.modifyBody (alike : w.Alike w') (place : Nat) (change : Body → Body) :
    (w.modifyBody place change).Alike (w'.modifyBody place change) where
  settings := alike.settings
  bounds := alike.bounds
  bodies := congrArg (List.modify · place change) alike.bodies

theorem Alike.addBody (alike : w.Alike w') (position : Vector2) (radius mass : Float32) :
    (w.addBody position radius mass).Alike (w'.addBody position radius mass) where
  settings := alike.settings
  bounds := alike.bounds
  bodies := congrArg (· ++ [Body.rest position radius mass]) alike.bodies

/-- A call of one world that adds no sensor, made in the other world too. -/
theorem Alike.perform (alike : w.Alike w') {call : Call} (common : call.addsSensor = false) :
    (w.perform call).Alike (w'.perform call) ∧
      (w.Tracked → w'.Tracked → w.solid = w'.solid →
        (w.perform call).solid = (w'.perform call).solid) := by
  cases call with
  | addSensor center size => cases common
  | addBody position radius mass => exact ⟨alike.addBody position radius mass, fun _ _ => id⟩
  | push place force => exact ⟨alike.modifyBody place (·.push force), fun _ _ => id⟩
  | spin place omega => exact ⟨alike.modifyBody place (·.spin omega), fun _ _ => id⟩
  | setVelocity place velocity =>
      exact ⟨alike.modifyBody place (·.withVelocity velocity), fun _ _ => id⟩
  | step dtMs =>
      refine ⟨alike.step dtMs, fun tracked tracked' same => ?_⟩
      show (w.step dtMs).solid = (w'.step dtMs).solid
      rw [solid_step tracked, solid_step tracked', same, solidMeetings, solidMeetings, alike.met,
        alike.walled]

/-- Calls of one world, made in the other world but for the sensors they add. -/
theorem Alike.performAll (alike : w.Alike w') (calls : List Call) :
    (w.performAll calls).Alike (w'.performAll (calls.filter (!·.addsSensor))) ∧
      (w.Tracked → w'.Tracked → w.solid = w'.solid →
        (w.performAll calls).solid = (w'.performAll (calls.filter (!·.addsSensor))).solid) := by
  induction calls generalizing w w' with
  | nil => exact ⟨alike, fun _ _ => id⟩
  | cons call calls ih =>
      cases adds : call.addsSensor with
      | true =>
          cases call with
          | addSensor center size =>
              have widened : (w.addSensor center size).Alike w' :=
                ⟨alike.settings, alike.bounds, alike.bodies⟩
              exact ih widened
          | _ => cases adds
      | false =>
          obtain ⟨next, touched⟩ := alike.perform adds
          obtain ⟨last, touched'⟩ := ih next
          rw [List.filter_cons_of_pos (by simp [adds])]
          refine ⟨last, fun tracked tracked' same => ?_⟩
          exact touched' (tracked.perform call) (tracked'.perform call)
            (touched tracked tracked' same)

/-- Sensors never push. Take two worlds with the same walls, settings and bodies, whatever
their sensors, and let the same calls be made in both, but for the sensors that are added.
Then all bodies have the same motion, and the contacts with bodies and walls are the same,
with phases and speeds, if they were so before; worlds that have not moved have none. For
this both worlds have to know what touched before: they do if they came about by calls
(`Tracked.performAll`). -/
theorem sensors_never_push (settings : w.settings = w'.settings) (bounds : w.bounds = w'.bounds)
    (bodies : w.bodies = w'.bodies) {calls calls' : List Call}
    (same : calls.filter (!·.addsSensor) = calls'.filter (!·.addsSensor)) :
    let after := w.performAll calls
    let after' := w'.performAll calls'
    (∀ place, after.motion? place = after'.motion? place) ∧ after.bodies = after'.bodies ∧
      (w.Tracked → w'.Tracked → w.solid = w'.solid → after.solid = after'.solid) := by
  intro after after'
  have alike : w.Alike w' := ⟨settings, bounds, bodies⟩
  have self : w'.Alike w' := ⟨rfl, rfl, rfl⟩
  obtain ⟨left, touched⟩ := alike.performAll calls
  obtain ⟨right, touched'⟩ := self.performAll calls'
  rw [same] at left touched
  have together : after.bodies = after'.bodies := left.bodies.trans right.bodies.symm
  refine ⟨fun place => ?_, together, fun tracked tracked' before => ?_⟩
  · unfold motion?
    rw [together]
  · exact (touched tracked tracked' before).trans (touched' tracked' tracked' rfl).symm

/-- A floor with spikes along the left wall. -/
def spiked : Arena :=
  { Arena.plain with hazards := [⟨.spike, ⟨60, 300⟩, ⟨80, 200⟩, some 5⟩] }

/-- A body runs into the left wall. -/
def bump : List Call :=
  [.addBody ⟨60, 300⟩ 30 100, .setVelocity 0 ⟨-12, 3⟩, .step tickMs, .push 0 ⟨-2000, 0⟩,
    .step tickMs]

/-- On the spiked floor, and with one more sensor, it does so in the same way: it touches
the wall a second time, and both sensors. -/
theorem bump_unmoved_by_spikes :
    let w := ofArena .plain .usual
    let w' := ofArena spiked .usual
    let call : Call := .addSensor ⟨400, 300⟩ ⟨800, 600⟩
    w.settings = w'.settings ∧ w.bounds = w'.bounds ∧ w.bodies = w'.bodies ∧
      bump.filter (!·.addsSensor) = (call :: bump).filter (!·.addsSensor) ∧
      (w.performAll bump).motion? 0 = (w'.performAll (call :: bump)).motion? 0 ∧
      (w.performAll bump).solid = (w'.performAll (call :: bump)).solid ∧
      (w'.performAll (call :: bump)).contacts.map (fun c => (c.other, c.phase)) =
        [(.wall .left, .persisting), (.sensor 0, .persisting), (.sensor 1, .persisting)] := by
  intro w w' call
  have same : bump.filter (!·.addsSensor) = (call :: bump).filter (!·.addsSensor) := rfl
  have settings : w.settings = w'.settings := rfl
  have bounds : w.bounds = w'.bounds := rfl
  have bodies : w.bodies = w'.bodies := rfl
  obtain ⟨motions, -, touched⟩ := sensors_never_push settings bounds bodies same
  have before : w.solid = w'.solid := rfl
  exact ⟨settings, bounds, bodies, same, motions 0,
    touched (tracked_ofArena _ _) (tracked_ofArena _ _) before, by decide +kernel⟩

end World

end RobotCombat
