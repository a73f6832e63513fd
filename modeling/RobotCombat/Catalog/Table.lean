/-
# RobotCombat.Catalog.Table — definitions by id, in the order of the ids

A table holds at most one definition for an id and lists its ids in the order of
their code points. `insert` keeps that order (`insertEntry_sorted`), so a table
is determined by what it maps each id to; and it changes what one id maps to and
nothing else (`find?_insert`).
-/

namespace RobotCombat

set_option autoImplicit false

/-- Whether ids stand in strictly rising order. -/
def SortedById {α : Type} (entries : List (String × α)) : Prop :=
  entries.Pairwise fun a b => a.1 < b.1

/-- Entries with an id's definition added or replaced. -/
def insertEntry {α : Type} (id : String) (definition : α) :
    List (String × α) → List (String × α)
  | [] => [(id, definition)]
  | (other, kept) :: rest =>
    if id < other then (id, definition) :: (other, kept) :: rest
    else if id = other then (id, definition) :: rest
    else (other, kept) :: insertEntry id definition rest

theorem mem_insertEntry {α : Type} {id : String} {definition : α} {entry : String × α}
    {entries : List (String × α)} (h : entry ∈ insertEntry id definition entries) :
    entry = (id, definition) ∨ entry ∈ entries := by
  induction entries with
  | nil => simpa [insertEntry] using h
  | cons head rest ih =>
    unfold insertEntry at h
    split at h
    · simpa using h
    · split at h
      · rcases List.mem_cons.1 h with h | h
        · exact .inl h
        · exact .inr (List.mem_cons_of_mem _ h)
      · rcases List.mem_cons.1 h with rfl | h
        · exact .inr List.mem_cons_self
        · exact (ih h).imp_right (List.mem_cons_of_mem _)

/-- Adding an entry keeps the order. -/
theorem insertEntry_sorted {α : Type} (id : String) (definition : α)
    {entries : List (String × α)} (h : SortedById entries) :
    SortedById (insertEntry id definition entries) := by
  induction entries with
  | nil => exact List.pairwise_singleton _ _
  | cons head rest ih =>
    obtain ⟨before, tail⟩ := List.pairwise_cons.1 h
    unfold insertEntry
    split
    · rename_i lt
      refine List.pairwise_cons.2 ⟨fun entry member => ?_, h⟩
      rcases List.mem_cons.1 member with rfl | member
      · exact lt
      · exact String.lt_trans lt (before entry member)
    · rename_i notLt
      split
      · rename_i same
        exact List.pairwise_cons.2 ⟨fun entry member => same ▸ before entry member, tail⟩
      · rename_i different
        refine List.pairwise_cons.2 ⟨fun entry member => ?_, ih tail⟩
        rcases mem_insertEntry member with rfl | member
        · apply String.not_le.1
          intro reverse
          exact different (String.le_antisymm reverse (String.not_lt.1 notLt))
        · exact before entry member

theorem lookup_entry {α : Type} (id other : String) (definition : α)
    (entries : List (String × α)) :
    ((id, definition) :: entries).lookup other =
      if other = id then some definition else entries.lookup other := by
  by_cases same : other = id
  · simp [same]
  · simp [List.lookup_cons, beq_false_of_ne same, same]

theorem lookup_insertEntry {α : Type} (id other : String) (definition : α)
    (entries : List (String × α)) :
    (insertEntry id definition entries).lookup other =
      if other = id then some definition else entries.lookup other := by
  induction entries with
  | nil => exact lookup_entry id other definition []
  | cons head rest ih =>
    unfold insertEntry
    split
    · exact lookup_entry id other definition (head :: rest)
    · split
      · rename_i same
        rw [lookup_entry, lookup_entry, ← same]
        by_cases found : other = id <;> simp [found]
      · rename_i different
        rw [lookup_entry, lookup_entry, ih]
        by_cases found : other = id
        · simp [found, different]
        · simp [found]

/-- Definitions by id. -/
structure Table (α : Type) where
  entries : List (String × α)
  sorted : SortedById entries

namespace Table

variable {α : Type}

def empty : Table α := ⟨[], List.Pairwise.nil⟩

/-- The table with an id's definition added or replaced. -/
def insert (t : Table α) (id : String) (definition : α) : Table α :=
  ⟨insertEntry id definition t.entries, insertEntry_sorted id definition t.sorted⟩

/-- The table of a list, in which later entries replace earlier ones. -/
def ofList (entries : List (String × α)) : Table α :=
  entries.foldl (fun t e => t.insert e.1 e.2) empty

/-- The definition of an id. -/
def find? (t : Table α) (id : String) : Option α :=
  t.entries.lookup id

/-- The ids in order. -/
def ids (t : Table α) : List String :=
  t.entries.map (·.1)

/-- Adding a definition changes what its id stands for and nothing else. -/
@[simp]
theorem find?_insert (t : Table α) (id other : String) (definition : α) :
    (t.insert id definition).find? other =
      if other = id then some definition else t.find? other :=
  lookup_insertEntry id other definition t.entries

end Table

end RobotCombat
