/-
# RobotCombat.Proofs.Json.Fields — what a decoder found

What was read under a name came out of the decoder of the field (`decoded_of_required`),
and so did every item of a list (`decoded_of_mem`).
-/
import Mathlib
import RobotCombat.Json.Field

namespace RobotCombat.Json

set_option autoImplicit false

/-- A list is decoded exactly if each of its items is. -/
theorem mapM_eq_some_iff {α β : Type} {f : α → Option β} {xs : List α} {ys : List β} :
    xs.mapM f = some ys ↔ List.Forall₂ (fun x y => f x = some y) xs ys := by
  induction xs generalizing ys with
  | nil => simp [eq_comm]
  | cons x xs ih =>
      rw [List.mapM_cons, List.forall₂_cons_left_iff]
      simp only [Option.bind_eq_bind, Option.bind_eq_some_iff, Option.pure_def, Option.some.injEq, ih]
      constructor
      · rintro ⟨y, first, rest, later, rfl⟩
        exact ⟨y, rest, first, later, rfl⟩
      · rintro ⟨y, rest, first, later, rfl⟩
        exact ⟨y, first, rest, later, rfl⟩

/-- What is in a decoded list came out of the decoder. -/
theorem decoded_of_mem {α β : Type} {f : α → Option β} {xs : List α} {ys : List β}
    (decoded : xs.mapM f = some ys) {y : β} (member : y ∈ ys) : ∃ x ∈ xs, f x = some y := by
  obtain ⟨place, inside, rfl⟩ := List.getElem_of_mem member
  obtain ⟨length, each⟩ := List.forall₂_iff_get.mp (mapM_eq_some_iff.mp decoded)
  have known : place < xs.length := length ▸ inside
  exact ⟨xs[place], List.getElem_mem known, each place known inside⟩

/-- What was read under a name came out of the decoder of the field. -/
theorem Record.decoded_of_required {α : Type} {r : Record} {name : String}
    {decode : Json → Option α} {a : α} (read : r.required name decode = some a) :
    ∃ j, decode j = some a := by
  unfold required at read
  split at read
  · exact ⟨_, read⟩
  · cases read

/-- So was what was read under a name with a default, if it is not the default. -/
theorem Record.decoded_of_withDefault {α : Type} {r : Record} {name : String}
    {decode : Json → Option α} {default a : α} (read : r.withDefault name decode default = some a) :
    a = default ∨ ∃ j, decode j = some a := by
  unfold withDefault at read
  split at read
  · exact .inr ⟨_, read⟩
  · exact .inl (Option.some.inj read).symm

end RobotCombat.Json
