/-
# RobotCombat.Proofs.Physics.Contacts — what the contacts of a step say

A step takes down the contacts of each body apart: with bodies of a higher place, with
walls and with sensors (`contacts_of_body`). Two bodies have at most one contact with each
other (`body_contacts_le_one`). A body has a contact with a sensor exactly if it reaches the
sensor after the step, under the place of the sensor (`sensor_contact_iff`). Sensors and
radii are the same before and after.

`isNew_iff`: a contact is new exactly if its pair is not among the contacts of the step
before.
-/
import RobotCombat.Proofs.Physics.Meetings

namespace RobotCombat

set_option autoImplicit false

/-- Of lists for all places, the things of one place are the list for that place. -/
theorem filter_flatMap_zipIdx {α β : Type} {owner : β → Nat} {f : α × Nat → List β}
    (owned : ∀ x i, ∀ y ∈ f (x, i), owner y = i) (place : Nat) (xs : List α) :
    ∀ k, ((xs.zipIdx k).flatMap f).filter (fun y => owner y = place) =
      if k ≤ place then (xs[place - k]?.map fun x => f (x, place)).getD [] else [] := by
  induction xs with
  | nil => simp
  | cons x xs ih =>
      intro k
      rw [List.zipIdx_cons, List.flatMap_cons, List.filter_append, ih]
      by_cases here : k = place
      · subst here
        have all : (f (x, k)).filter (fun y => owner y = k) = f (x, k) :=
          List.filter_eq_self.mpr fun y member => by simp [owned x k y member]
        simp [all]
      · have none : (f (x, k)).filter (fun y => owner y = place) = [] :=
          List.filter_eq_nil_iff.mpr fun y member => by simp [owned x k y member, here]
        rw [none, List.nil_append]
        by_cases below : k ≤ place
        · have next : place - k = (place - (k + 1)) + 1 := by omega
          rw [if_pos below, if_pos (by omega), next, List.getElem?_cons_succ]
        · rw [if_neg below, if_neg (by omega)]

/-! ## Radii -/

namespace World

/-- The radii of the bodies. -/
def radii (w : World) : List Float32 := w.bodies.map (·.radius)

@[simp] theorem radii_push (w : World) (place : Nat) (force : Vector2) :
    (w.push place force).radii = w.radii := by
  apply map_modify
  exact fun _ => rfl

@[simp] theorem radii_spin (w : World) (place : Nat) (omega : Float32) :
    (w.spin place omega).radii = w.radii := by
  apply map_modify
  exact fun _ => rfl

/-- A step keeps the radii. -/
@[simp] theorem radii_step (w : World) (dtMs : Float32) : (w.step dtMs).radii = w.radii := by
  exact map_step (fun _ _ _ => rfl) w dtMs

/-! ## Sensors -/

@[simp] theorem sensors_push (w : World) (place : Nat) (force : Vector2) :
    (w.push place force).sensors = w.sensors := rfl

@[simp] theorem sensors_spin (w : World) (place : Nat) (omega : Float32) :
    (w.spin place omega).sensors = w.sensors := rfl

/-! ## The contacts of all bodies -/

variable {w : World} {dtMs : Float32}

theorem getElem?_step {place : Nat} :
    (w.step dtMs).bodies[place]? = (w.walled dtMs)[place]?.map (·.1) := by
  rw [bodies_step, List.getElem?_map]

theorem mem_step_contacts_iff {c : Contact} :
    c ∈ (w.step dtMs).contacts ↔
      ∃ place after, (w.walled dtMs)[place]? = some after ∧
        ∃ m ∈ meetingsOf w.sensors (w.met dtMs).2 place after, m.toContact w.touching = c := by
  rw [step_contacts, meetings]
  simp only [List.mem_map, List.mem_flatMap, List.mem_zipIdx_iff_getElem?]
  constructor
  · rintro ⟨m, ⟨⟨after, place⟩, lookup, member⟩, rfl⟩
    exact ⟨place, after, lookup, m, member, rfl⟩
  · rintro ⟨place, after, lookup, m, member, rfl⟩
    exact ⟨m, ⟨⟨after, place⟩, lookup, member⟩, rfl⟩

/-- A step lists its contacts in rising rank. -/
theorem contacts_increase (w : World) (dtMs : Float32) :
    (w.step dtMs).contacts.Pairwise fun c c' => pairRank c.pair < pairRank c'.pair := by
  rw [step_contacts, List.pairwise_map]
  exact w.meetings_increase dtMs

/-- A contact is new exactly if its pair did not touch in the step before. -/
theorem isNew_iff (tracked : w.Tracked) {c : Contact} (member : c ∈ (w.step dtMs).contacts) :
    c.isNew = true ↔ ∀ before ∈ w.contacts, before.pair ≠ c.pair := by
  rw [step_contacts] at member
  obtain ⟨m, -, rfl⟩ := List.mem_map.mp member
  have phase : (m.toContact w.touching).isNew = !w.touching.contains m.pair := by
    unfold Contact.isNew Meeting.toContact
    cases w.touching.contains m.pair <;> rfl
  have touched : m.pair ∈ w.touching ↔ ∃ before ∈ w.contacts, before.pair = m.pair :=
    (tracked m.pair).trans List.mem_map
  rw [phase, Bool.not_eq_true', ← Bool.not_eq_true, List.contains_iff_mem, touched]
  push Not
  rfl

/-! ## The contacts of one body -/

/-- The contacts of the body at a place are those of its own meetings. -/
theorem contacts_of_body (place : Nat) :
    (w.step dtMs).contacts.filter (·.body = place) =
      ((w.walled dtMs)[place]?.map fun after =>
        (meetingsOf w.sensors (w.met dtMs).2 place after).map
          (Meeting.toContact w.touching)).getD [] := by
  have own : (w.meetings dtMs).filter (·.body = place) = _ :=
    filter_flatMap_zipIdx (fun _ _ _ member => body_of_meetingsOf member) place (w.walled dtMs) 0
  rw [if_pos (Nat.zero_le _), Nat.sub_zero] at own
  rw [step_contacts, List.filter_map]
  have same : (fun c : Contact => decide (c.body = place)) ∘ Meeting.toContact w.touching =
      fun m => decide (m.body = place) := rfl
  rw [same, own]
  cases (w.walled dtMs)[place]? <;> rfl

/-! ## Bodies and bodies -/

/-- A body meets bodies of a higher place. -/
theorem body_contact_lt {c : Contact} {j : Nat} (member : c ∈ (w.step dtMs).contacts)
    (other : c.other = .body j) : c.body < j ∧ j < w.bodies.length := by
  obtain ⟨place, after, -, m, meeting, rfl⟩ := mem_step_contacts_iff.mp member
  change m.other = .body j at other
  simp only [meetingsOf, List.mem_append, List.mem_filter, List.mem_map] at meeting
  rcases meeting with (⟨paired, -⟩ | ⟨met, -, rfl⟩) | ⟨s, -, rfl⟩
  · obtain ⟨j', other', below⟩ := mem_met paired
    obtain rfl : j = j' := by simpa [other] using other'
    exact below
  · cases other
  · cases other

/-- Two bodies have at most one contact with each other. -/
theorem body_contacts_le_one (few : w.bodies.length ≤ 2) :
    ((w.step dtMs).contacts.filter (·.other.isBody)).length ≤ 1 := by
  have one : (w.met dtMs).2.length ≤ 1 := by
    refine (length_meetPairs_le _ _ _).trans ?_
    rw [List.length_map]
    generalize w.bodies.length = count at few
    interval_cases count <;> decide
  have named : (fun c : Contact => c.other.isBody) ∘ Meeting.toContact w.touching =
      fun m => m.other.isBody := rfl
  rw [step_contacts, List.filter_map, List.length_map, named,
    ← ((w.found_perm dtMs).filter _).length_eq, found_isBody]
  exact one

/-! ## Bodies and sensors -/

/-- A step reports a sensor exactly if the body ends up in its reach. -/
theorem sensor_contact_iff {place i : Nat} :
    (∃ c ∈ (w.step dtMs).contacts, c.body = place ∧ c.other = .sensor i) ↔
      ∃ b s, (w.step dtMs).bodies[place]? = some b ∧ w.sensors[i]? = some s ∧
        s.overlaps b.motion.position b.radius = true := by
  constructor
  · rintro ⟨c, member, rfl, other⟩
    obtain ⟨place, after, lookup, m, meeting, rfl⟩ := mem_step_contacts_iff.mp member
    change m.other = .sensor i at other
    simp only [meetingsOf, List.mem_append, List.mem_filter, List.mem_map] at meeting
    rcases meeting with (⟨paired, -⟩ | ⟨met, -, rfl⟩) | ⟨k, reached, rfl⟩
    · obtain ⟨j, other', -⟩ := mem_met paired
      rw [other] at other'
      cases other'
    · cases other
    · obtain rfl : k = i := by simpa using other
      obtain ⟨i, s, rfl, sensor, overlaps⟩ := mem_sensed_iff.mp reached
      refine ⟨after.1, s, ?_, by simpa using sensor, overlaps⟩
      rw [getElem?_step]
      exact congrArg (Option.map (·.1)) lookup
  · rintro ⟨b, s, body, sensor, overlaps⟩
    rw [getElem?_step] at body
    obtain ⟨after, lookup, rfl⟩ := Option.map_eq_some_iff.mp body
    have reached : i ∈ sensed after.1 0 w.sensors :=
      mem_sensed_iff.mpr ⟨i, s, by omega, sensor, overlaps⟩
    let m : Meeting := ⟨place, .sensor i, after.1.motion.velocity.length⟩
    refine ⟨m.toContact w.touching, ?_, rfl, rfl⟩
    refine mem_step_contacts_iff.mpr ⟨place, after, lookup, m, ?_, rfl⟩
    exact List.mem_append_right _ (List.mem_map.mpr ⟨i, reached, rfl⟩)

end World

end RobotCombat
