/-
# RobotCombat.Proofs.Physics.Stream — the contacts of a world, in whatever way it came about

A world comes about by `Call`s in any order and with any arguments. Only a step rewrites the
contacts and the touching pairs, and nothing takes a body or a sensor away, so what a step
lists stays valid, and the touching pairs stay those of the contacts.

* `contacts_well_formed`: after any calls the contacts rise in rank, name bodies and sensors
  that there are, and persist exactly if the step before listed their pair.
-/
import RobotCombat.Proofs.Physics.Contacts

namespace RobotCombat

set_option autoImplicit false

namespace World

variable {w : World} {dtMs : Float32}

/-! ## Worlds and what is done to them -/

/-- What can be done to a world. -/
inductive Call where
  | addBody (position : Vector2) (radius mass : Float32)
  | addSensor (center size : Vector2)
  | push (place : Nat) (force : Vector2)
  | spin (place : Nat) (omega : Float32)
  | setVelocity (place : Nat) (velocity : Vector2)
  | step (dtMs : Float32)

namespace Call

def isStep : Call → Bool
  | .step _ => true
  | _ => false

def addsSensor : Call → Bool
  | .addSensor _ _ => true
  | _ => false

end Call

/-- The world after a call. -/
def perform (w : World) : Call → World
  | .addBody position radius mass => w.addBody position radius mass
  | .addSensor center size => w.addSensor center size
  | .push place force => w.push place force
  | .spin place omega => w.spin place omega
  | .setVelocity place velocity => w.setVelocity place velocity
  | .step dtMs => w.step dtMs

/-- The world after calls in order. -/
def performAll (w : World) (calls : List Call) : World := calls.foldl perform w

/-- Only a step rewrites the contacts and the pairs that touch. -/
theorem contacts_perform {call : Call} (quiet : call.isStep = false) (w : World) :
    (w.perform call).contacts = w.contacts ∧ (w.perform call).touching = w.touching := by
  cases call with
  | step dtMs => cases quiet
  | _ => exact ⟨rfl, rfl⟩

theorem contacts_performAll {calls : List Call} (quiet : ∀ call ∈ calls, call.isStep = false) :
    ∀ w : World, (w.performAll calls).contacts = w.contacts := by
  induction calls with
  | nil => exact fun _ => rfl
  | cons call calls ih =>
      intro w
      have later := ih (fun other member => quiet other (List.mem_cons_of_mem call member))
        (w.perform call)
      exact later.trans (contacts_perform (quiet call List.mem_cons_self) w).1

/-- Nothing takes a body or a sensor away. -/
theorem length_perform (w : World) (call : Call) :
    w.bodies.length ≤ (w.perform call).bodies.length ∧
      w.sensors.length ≤ (w.perform call).sensors.length := by
  cases call with
  | addBody position radius mass => simp [perform, addBody]
  | addSensor center size => simp [perform, addSensor]
  | push place force => exact ⟨(w.length_push place force).ge, le_rfl⟩
  | spin place omega => exact ⟨(w.length_spin place omega).ge, le_rfl⟩
  | setVelocity place velocity => exact ⟨(w.length_modifyBody place _).ge, le_rfl⟩
  | step dtMs => exact ⟨(w.length_step dtMs).ge, (congrArg List.length (w.sensors_step dtMs)).ge⟩

/-- Calls leave the touching pairs those of the contacts. -/
theorem Tracked.perform (tracked : w.Tracked) (call : Call) : (w.perform call).Tracked := by
  cases quiet : call.isStep with
  | false =>
      obtain ⟨contacts, touching⟩ := contacts_perform quiet w
      intro pair
      rw [contacts, touching]
      exact tracked pair
  | true =>
      cases call with
      | step dtMs => exact w.tracked_step dtMs
      | _ => cases quiet

/-- However a world came about, its touching pairs are those of the contacts of its last
step. -/
theorem Tracked.performAll (tracked : w.Tracked) (calls : List Call) :
    (w.performAll calls).Tracked := by
  induction calls generalizing w with
  | nil => exact tracked
  | cons call calls ih => exact ih (tracked.perform call)

/-- A contact of a body with something that there is. -/
structure Valid (w : World) (c : Contact) : Prop where
  body : c.body < w.bodies.length
  other : ∀ j, c.other = .body j → c.body < j ∧ j < w.bodies.length
  sensor : ∀ i, c.other = .sensor i → i < w.sensors.length

theorem Valid.mono {w w' : World} {c : Contact} (valid : w.Valid c)
    (bodies : w.bodies.length ≤ w'.bodies.length)
    (sensors : w.sensors.length ≤ w'.sensors.length) : w'.Valid c where
  body := valid.body.trans_le bodies
  other j named := ⟨(valid.other j named).1, (valid.other j named).2.trans_le bodies⟩
  sensor i named := (valid.sensor i named).trans_le sensors

/-- A step lists valid contacts. -/
theorem valid_step {c : Contact} (member : c ∈ (w.step dtMs).contacts) :
    (w.step dtMs).Valid c where
  body := by
    obtain ⟨place, after, walled, m, meeting, rfl⟩ := mem_step_contacts_iff.mp member
    have here : m.body = place := body_of_meetingsOf meeting
    have inside : (w.step dtMs).bodies[m.body]? = some after.1 := by
      rw [here, getElem?_step, walled]
      rfl
    exact (List.getElem?_eq_some_iff.mp inside).1
  other j named := by
    rw [length_step]
    exact body_contact_lt member named
  sensor i named := by
    obtain ⟨b, s, -, sensor, -⟩ := sensor_contact_iff.mp ⟨c, member, rfl, named⟩
    rw [sensors_step]
    exact (List.getElem?_eq_some_iff.mp sensor).1

/-- The contacts of a world rise in rank and are valid. -/
structure Ordered (w : World) : Prop where
  increase : w.contacts.Pairwise fun c c' => pairRank c.pair < pairRank c'.pair
  valid : ∀ c ∈ w.contacts, w.Valid c

theorem Ordered.perform (ordered : w.Ordered) (call : Call) : (w.perform call).Ordered := by
  cases quiet : call.isStep with
  | false =>
      obtain ⟨bodies, sensors⟩ := w.length_perform call
      have same := (contacts_perform quiet w).1
      exact ⟨same ▸ ordered.increase,
        fun c member => (ordered.valid c (same ▸ member)).mono bodies sensors⟩
  | true =>
      cases call with
      | step dtMs => exact ⟨w.contacts_increase dtMs, fun _ member => valid_step member⟩
      | _ => cases quiet

theorem Ordered.performAll (ordered : w.Ordered) (calls : List Call) :
    (w.performAll calls).Ordered := by
  induction calls generalizing w with
  | nil => exact ordered
  | cons call calls ih => exact ih (ordered.perform call)

/-- Whatever was done to a world, its contacts rise strictly, by body and then with bodies
before walls before sensors, so that no pair stands in them twice. They name bodies and
sensors that there are, and of two bodies the higher one second. They are the contacts of
the last step; of these a contact persists exactly if its pair is among the contacts of the
step before, and is new otherwise. -/
theorem contacts_well_formed (a : Arena) (p : PhysicsSettings) (calls : List Call) :
    let w := (ofArena a p).performAll calls
    w.contacts.Pairwise (fun c c' => pairRank c.pair < pairRank c'.pair) ∧
    (w.contacts.map Contact.pair).Nodup ∧
    (∀ c ∈ w.contacts, c.body < w.bodies.length ∧
      (∀ j, c.other = .body j → c.body < j ∧ j < w.bodies.length) ∧
      ∀ i, c.other = .sensor i → i < w.sensors.length) ∧
    ((∀ call ∈ calls, call.isStep = false) → w.contacts = []) ∧
    ∀ before dtMs after, calls = before ++ .step dtMs :: after →
      (∀ call ∈ after, call.isStep = false) →
        let earlier := (ofArena a p).performAll before
        w.contacts = (earlier.step dtMs).contacts ∧
        ∀ c ∈ w.contacts,
          (c.phase = .persisting ↔ c.pair ∈ earlier.contacts.map Contact.pair) ∧
          (c.phase = .begun ↔ c.pair ∉ earlier.contacts.map Contact.pair) := by
  intro w
  have fresh : (ofArena a p).Ordered := ⟨.nil, nofun⟩
  have ordered : w.Ordered := fresh.performAll calls
  refine ⟨ordered.increase, ?_, fun c member => ?_, ?_, ?_⟩
  · refine List.pairwise_map.mpr (ordered.increase.imp fun below same => ?_)
    rw [same] at below
    exact lt_irrefl _ below
  · obtain ⟨body, other, sensor⟩ := ordered.valid c member
    exact ⟨body, other, sensor⟩
  · intro quiet
    exact contacts_performAll quiet _
  · rintro before dtMs after rfl quiet earlier
    have last : w.contacts = (earlier.step dtMs).contacts := by
      have split : w = (earlier.step dtMs).performAll after := List.foldl_append
      rw [split, contacts_performAll quiet]
    refine ⟨last, fun c member => ?_⟩
    have tracked : earlier.Tracked := (tracked_ofArena a p).performAll before
    have fresh := isNew_iff tracked (last ▸ member)
    have unseen : c.pair ∉ earlier.contacts.map Contact.pair ↔
        ∀ before ∈ earlier.contacts, before.pair ≠ c.pair := by simp
    rw [← not_iff_not (b := c.pair ∈ _), unseen, ← fresh]
    unfold Contact.isNew
    cases c.phase <;> simp

end World

end RobotCombat
