/-
# RobotCombat.Proofs.Fighter.Status — marks come back from their text

The text of the marks is a row of parts between bars. Each part is trimmed and holds no
bar, so the row comes apart into the same parts (`Text.map_trim_splitAt`). A part is read
as the mark that it names or as the high half of the byte, and the marks of all parts
together are the marks that were written.

* `ofText?_text`: marks are read back from their text, the ones without a name too.
-/
import Mathlib
import RobotCombat.Fighter.Status
import RobotCombat.Proofs.Text.Pieces

namespace RobotCombat.Status

set_option autoImplicit false

open Text

/-- The names of the marks that are set. -/
def names (s : Status) : List String :=
  s.named.filterMap fun m => if m.1 then some m.2 else .none

/-- The parts of the text of the marks. -/
def parts (s : Status) : List String :=
  s.names ++ if s.extra = Status.none.extra then [] else [extraText s.extra]

theorem text_eq (s : Status) : s.text = " | ".intercalate s.parts := rfl

/-- A part that stands in a row of parts as it is. -/
def IsPart (part : String) : Prop :=
  (trim part.toList = part.toList ∧ '|' ∉ part.toList) ∧ part.toList ≠ []

theorem isPart_of_mem_names {s : Status} : ∀ part ∈ s.names, IsPart part := by
  have each : ∀ part ∈ ["DESTROYED", "IN_PIT", "ON_SPIKES", "IN_CONTACT"], IsPart part := by
    unfold IsPart
    decide
  intro part member
  obtain ⟨m, among, known⟩ := List.mem_filterMap.mp member
  refine each part ?_
  simp only [named, List.mem_cons, List.not_mem_nil, or_false] at among ⊢
  rcases among with rfl | rfl | rfl | rfl <;> simp_all

theorem isPart_extraText : ∀ extra : Fin 16, IsPart (extraText extra) := by
  unfold IsPart
  decide

theorem isPart_of_mem_parts {s : Status} {part : String} (member : part ∈ s.parts) :
    IsPart part := by
  rcases List.mem_append.mp member with name | extra
  · exact isPart_of_mem_names part name
  · split at extra
    · cases extra
    · rw [List.mem_singleton.mp extra]
      exact isPart_extraText s.extra

/-- The marks that the parts of a text name, one part at a time. -/
def read? (parts : List (List Char)) : Option Status :=
  (parts.mapM part?).map fun marks => marks.foldl union none

theorem read?_names : ∀ destroyed inPit onSpikes inContact : Bool,
    read? ((names ⟨destroyed, inPit, onSpikes, inContact, 0⟩).map String.toList) =
      some ⟨destroyed, inPit, onSpikes, inContact, 0⟩ := by
  decide

theorem part?_extraText : ∀ extra : Fin 16, extra ≠ 0 →
    part? (extraText extra).toList = some ⟨false, false, false, false, extra⟩ := by
  decide

theorem read?_parts (s : Status) : read? (s.parts.map String.toList) = some s := by
  obtain ⟨destroyed, inPit, onSpikes, inContact, extra⟩ := s
  have named := read?_names destroyed inPit onSpikes inContact
  unfold parts
  split
  · rename_i bare
    rw [List.append_nil]
    cases bare
    exact named
  · rename_i extended
    obtain ⟨marks, found, union⟩ := Option.map_eq_some_iff.mp named
    have same : names ⟨destroyed, inPit, onSpikes, inContact, extra⟩ =
        names ⟨destroyed, inPit, onSpikes, inContact, 0⟩ := rfl
    have last := part?_extraText extra extended
    have zero : ∀ extra : Fin 16, 0 ||| extra = extra := by decide
    rw [read?, List.map_append, List.mapM_append, same, found]
    simp [last, union, Status.union, zero]

/-- Marks are read back from their text. -/
theorem ofText?_text (s : Status) : ofText? s.text = some s := by
  have read := read?_parts s
  cases known : s.parts with
  | nil =>
      rw [known] at read
      have bare : s.text = "" := by rw [text_eq, known]; rfl
      rw [bare, ← read]
      rfl
  | cons part parts =>
      have each : ∀ p ∈ part.toList :: parts.map String.toList, trim p = p ∧ '|' ∉ p := by
        rw [← List.map_cons, List.forall_mem_map]
        exact fun p member => (isPart_of_mem_parts (known ▸ member)).1
      obtain ⟨⟨trimmed, -⟩, nonempty⟩ := isPart_of_mem_parts (known ▸ List.mem_cons_self)
      obtain ⟨c, inside, solid⟩ := exists_solid trimmed nonempty
      have characters : s.text.toList =
          [' ', '|', ' '].intercalate (part.toList :: parts.map String.toList) := by
        rw [text_eq, known, String.toList_intercalate]
        rfl
      have present : trim s.text.toList ≠ [] := by
        refine trim_ne_nil (c := c) ?_ solid
        rw [characters]
        cases parts <;> simp [List.intercalate_cons_cons, inside]
      have apart := map_trim_splitAt (by decide) each
      rw [← characters] at apart
      rw [known, List.map_cons, ← apart] at read
      unfold ofText?
      dsimp only
      rw [List.isEmpty_eq_false_iff.mpr present]
      rw [read?, List.mapM_map] at read
      exact read

end RobotCombat.Status
