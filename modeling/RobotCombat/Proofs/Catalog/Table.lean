/-
# RobotCombat.Proofs.Catalog.Table — a table is what it maps each id to

No id stands twice in a table (`nodup_ids`), an id is listed exactly if it can be
looked up (`mem_ids_iff`), and what is found under an id is one of the entries
(`mem_of_find?`), which all come from the list that the table was made of
(`mem_of_mem_ofList`). Entering the entries of a table one by one gives the table back
(`ofList_entries`).
-/
import Mathlib
import RobotCombat.Catalog.Table

namespace RobotCombat

set_option autoImplicit false

/-- An id after all others goes to the end. -/
theorem insertEntry_last {α : Type} {id : String} (definition : α) {entries : List (String × α)}
    (last : ∀ entry ∈ entries, entry.1 < id) :
    insertEntry id definition entries = entries ++ [(id, definition)] := by
  induction entries with
  | nil => rfl
  | cons head rest ih =>
    have before : head.1 < id := last head List.mem_cons_self
    have later := ih fun entry member => last entry (List.mem_cons_of_mem _ member)
    unfold insertEntry
    rw [if_neg (String.lt_asymm before), if_neg (String.ne_of_lt before).symm, later]
    rfl

namespace Table

variable {α : Type}

theorem nodup_ids (t : Table α) : t.ids.Nodup := by
  have rising : t.ids.Pairwise (· < ·) := List.pairwise_map.mpr t.sorted
  exact rising.imp fun below => String.ne_of_lt below

theorem mem_ids_iff (t : Table α) (id : String) : id ∈ t.ids ↔ (t.find? id).isSome := by
  unfold ids find?
  rw [List.mem_map, List.lookup_isSome_iff]
  constructor
  · rintro ⟨entry, member, rfl⟩
    exact ⟨entry, member, beq_self_eq_true _⟩
  · rintro ⟨entry, member, same⟩
    exact ⟨entry, member, (beq_iff_eq.mp same).symm⟩

theorem mem_ids_insert (t : Table α) (id other : String) (definition : α) :
    other ∈ (t.insert id definition).ids ↔ other = id ∨ other ∈ t.ids := by
  rw [mem_ids_iff, mem_ids_iff, find?_insert]
  by_cases same : other = id <;> simp [same]

/-- What is found under an id is an entry. -/
theorem mem_of_find? {t : Table α} {id : String} {definition : α}
    (found : t.find? id = some definition) : (id, definition) ∈ t.entries := by
  obtain ⟨before, after, entries, -⟩ := List.lookup_eq_some_iff.mp found
  rw [entries]
  exact List.mem_append_right _ List.mem_cons_self

/-- The entries of a table come from the list it was made of. -/
theorem mem_of_mem_ofList {entries : List (String × α)} {entry : String × α}
    (member : entry ∈ (ofList entries).entries) : entry ∈ entries := by
  have each : ∀ (entries : List (String × α)) (t : Table α),
      entry ∈ (entries.foldl (fun t e => t.insert e.1 e.2) t).entries →
        entry ∈ entries ∨ entry ∈ t.entries := by
    intro entries
    induction entries with
    | nil => exact fun t member => .inr member
    | cons head rest ih =>
        intro t member
        rcases ih _ member with later | earlier
        · exact .inl (List.mem_cons_of_mem _ later)
        · rcases mem_insertEntry earlier with rfl | before
          · exact .inl List.mem_cons_self
          · exact .inr before
  rcases each entries empty member with listed | none
  · exact listed
  · cases none

/-- Entries that follow those of a table in order are put behind them. -/
theorem entries_foldl_insert :
    ∀ (entries : List (String × α)) (t : Table α), SortedById (t.entries ++ entries) →
      (entries.foldl (fun t e => t.insert e.1 e.2) t).entries = t.entries ++ entries
  | [], t, _ => (List.append_nil _).symm
  | (id, definition) :: rest, t, sorted => by
      have last : ∀ entry ∈ t.entries, entry.1 < id := fun entry member =>
        (List.pairwise_append.mp sorted).2.2 entry member _ List.mem_cons_self
      have next : (t.insert id definition).entries = t.entries ++ [(id, definition)] :=
        insertEntry_last definition last
      rw [List.foldl_cons, entries_foldl_insert rest _ (by rw [next]; simpa using sorted), next]
      simp

/-- Entering the entries of a table one by one gives the table back. -/
theorem ofList_entries (t : Table α) : ofList t.entries = t := by
  have same : (ofList t.entries).entries = t.entries :=
    entries_foldl_insert t.entries empty t.sorted
  cases t
  unfold ofList at *
  generalize List.foldl _ _ _ = built at *
  cases built
  cases same
  rfl

end Table

end RobotCombat
