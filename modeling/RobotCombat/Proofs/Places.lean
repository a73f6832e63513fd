/-
# RobotCombat.Proofs.Places — readings that rewriting leaves alone

A list is read by a function of its elements. Rewriting one place leaves such a
reading alone if the new element reads like the old one; and what no single change
alters is the same after a chain of them.

`entriesAt` reads a list of things that are each about one place.
-/

namespace RobotCombat

set_option autoImplicit false

/-- A change of an element is a change of what is read off it. -/
theorem map_modify_of_comm {α β : Type} {f : α → β} {change : α → α} {change' : β → β}
    (same : ∀ x, f (change x) = change' (f x)) (xs : List α) (place : Nat) :
    (xs.modify place change).map f = (xs.map f).modify place change' := by
  apply List.ext_getElem?
  intro other
  simp only [List.getElem?_map, List.getElem?_modify]
  cases xs[other]? with
  | none => rfl
  | some x =>
      simp only [Option.map_eq_map, Option.map_some]
      split
      · rw [same]
      · rfl

theorem map_modify {α β : Type} {f : α → β} {change : α → α} (same : ∀ x, f (change x) = f x)
    (xs : List α) (place : Nat) : (xs.modify place change).map f = xs.map f := by
  have kept : (xs.modify place change).map f = (xs.map f).modify place id :=
    map_modify_of_comm same xs place
  rw [kept, List.modify_id]

theorem set_of_lookup {α : Type} {xs : List α} {place : Nat} {x : α}
    (lookup : xs[place]? = some x) : xs.set place x = xs := by
  obtain ⟨inside, rfl⟩ := List.getElem?_eq_some_iff.mp lookup
  exact List.set_getElem_self inside

theorem map_set {α β : Type} {f : α → β} {xs : List α} {place : Nat} {x x' : α}
    (lookup : xs[place]? = some x) (same : f x' = f x) : (xs.set place x').map f = xs.map f := by
  rw [List.map_set, same]
  apply set_of_lookup
  rw [List.getElem?_map, lookup]
  rfl

/-- What no element changes is the same after all of them. -/
theorem foldl_keeps {σ α β : Type} (f : σ → α → σ) (reading : σ → β)
    (each : ∀ state x, reading (f state x) = reading state) :
    ∀ (xs : List α) (state : σ), reading (xs.foldl f state) = reading state
  | [], _ => rfl
  | x :: xs, state => (foldl_keeps f reading each xs (f state x)).trans (each state x)

theorem filterMap_cons_eq_append {α β : Type} (f : α → Option β) (x : α) (xs : List α) :
    (x :: xs).filterMap f = (f x).toList ++ xs.filterMap f := by
  cases known : f x <;> simp [known]

/-! ## Entries of a place -/

/-- The things of a list that are about a place. -/
def entriesAt {α : Type} (place : Nat) (xs : List (Nat × α)) : List α :=
  xs.filterMap fun x => if x.1 = place then some x.2 else none

section Entries

variable {α : Type} {place : Nat}

@[simp] theorem entriesAt_nil : entriesAt place ([] : List (Nat × α)) = [] := rfl

@[simp] theorem entriesAt_cons_self (x : α) (xs : List (Nat × α)) :
    entriesAt place ((place, x) :: xs) = x :: entriesAt place xs := by
  simp [entriesAt]

theorem entriesAt_cons_other {x : Nat × α} (other : x.1 ≠ place) (xs : List (Nat × α)) :
    entriesAt place (x :: xs) = entriesAt place xs := by
  simp [entriesAt, other]

@[simp] theorem entriesAt_append (xs ys : List (Nat × α)) :
    entriesAt place (xs ++ ys) = entriesAt place xs ++ entriesAt place ys :=
  List.filterMap_append

@[simp] theorem entriesAt_map_self (xs : List α) : entriesAt place (xs.map (place, ·)) = xs := by
  induction xs with
  | nil => rfl
  | cons x xs ih => rw [List.map_cons, entriesAt_cons_self, ih]

theorem entriesAt_map_other {owner : Nat} (other : owner ≠ place) (xs : List α) :
    entriesAt place (xs.map (owner, ·)) = [] := by
  simp [entriesAt, other]

theorem entriesAt_flatMap {β : Type} (f : β → List (Nat × α)) (ys : List β) :
    entriesAt place (ys.flatMap f) = ys.flatMap fun y => entriesAt place (f y) :=
  List.filterMap_flatMap

theorem mem_entriesAt {x : α} {xs : List (Nat × α)} :
    x ∈ entriesAt place xs ↔ (place, x) ∈ xs := by
  unfold entriesAt
  rw [List.mem_filterMap]
  constructor
  · rintro ⟨⟨owner, y⟩, member, kept⟩
    obtain ⟨rfl, rfl⟩ : owner = place ∧ y = x := by simpa using kept
    exact member
  · intro member
    exact ⟨(place, x), member, by simp⟩

end Entries

end RobotCombat
