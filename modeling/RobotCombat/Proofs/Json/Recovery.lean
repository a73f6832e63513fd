/-
# RobotCombat.Proofs.Json.Recovery — decoders undo encoders

A value comes back from its document if its parts do. For numbers that is a condition on
the value (`ReadsBack`): a floating number may have a text that is read as its neighbour,
and a count may be too large for its field. Everything else comes back as it is.

What the encoders build is well formed whatever the value (`wellFormed_single` and the
lemmas after it), so the way over the text adds nothing to the way over the document
(`recovers_of_decoded`).
-/
import RobotCombat.Catalog.Table
import RobotCombat.Proofs.Json.Documents
import RobotCombat.Proofs.Json.Fields

namespace RobotCombat.Json

set_option autoImplicit false

/-! ## Documents of the encoders -/

theorem decimalDigits_lt (n : Nat) : ∀ d ∈ decimalDigits n, d < 10 := by
  intro d member
  obtain ⟨c, digit, rfl⟩ := List.mem_map.mp member
  have bounds := isDigit_iff.mp (isDigit_of_mem_digitChars c digit)
  have zero : '0'.toNat = 48 := rfl
  omega

theorem numeral_digits (layout : Layout) (negative : Bool) (d : Number.Decimal) :
    ∀ digit ∈ (layout.numeral negative d).fraction, digit < 10 := by
  have written := decimalDigits_lt d.digits
  intro digit
  unfold Layout.numeral
  dsimp only
  split
  · intro zero
    rw [List.mem_singleton.mp zero]
    omega
  split
  · exact fun member => written digit (List.mem_of_mem_drop member)
  split
  · intro member
    rcases List.mem_append.mp member with zero | member
    · rw [List.eq_of_mem_replicate zero]
      omega
    · exact written digit member
  · exact fun member => written digit (List.mem_of_mem_drop member)

theorem numeralOf?_digits {f : Number.Format} {layout : Layout} {word : Nat} {n : Numeral}
    (written : numeralOf? f layout word = some n) : ∀ d ∈ n.fraction, d < 10 := by
  unfold numeralOf? at written
  split at written
  · cases written
    exact numeral_digits layout _ _
  · cases written

@[simp]
theorem wellFormed_single (x : Float32) : WellFormed (single x) := by
  unfold single
  split
  · rename_i written
    exact .number (numeralOf?_digits written)
  · exact .null

@[simp]
theorem wellFormed_double (x : Float) : WellFormed (double x) := by
  unfold double
  split
  · rename_i written
    exact .number (numeralOf?_digits written)
  · exact .null

@[simp]
theorem wellFormed_count (n : Nat) : WellFormed (count n) :=
  .number (by simp [Numeral.ofNat])

@[simp]
theorem wellFormed_text (s : String) : WellFormed (text s) := .string s

@[simp]
theorem wellFormed_bool (b : Bool) : WellFormed (.bool b) := .bool b

@[simp]
theorem wellFormed_array_iff {items : List Json} :
    WellFormed (.array items) ↔ ∀ item ∈ items, WellFormed item :=
  ⟨fun (.array each) => each, .array⟩

@[simp]
theorem wellFormed_list_iff {α : Type} {encode : α → Json} {items : List α} :
    WellFormed (list encode items) ↔ ∀ a ∈ items, WellFormed (encode a) := by
  simp [list]

@[simp]
theorem wellFormed_record_iff {members : List (String × Json)} :
    WellFormed (record members) ↔ ∀ m ∈ members, WellFormed m.2 := by
  constructor
  · intro (.object each) m member
    exact each _ (List.mem_map_of_mem member)
  · intro each
    refine .object fun _ member => ?_
    obtain ⟨m, among, rfl⟩ := List.mem_map.mp member
    exact each m among

theorem wellFormed_orNull {α : Type} {encode : α → Json} (each : ∀ a, WellFormed (encode a)) :
    ∀ o, WellFormed (orNull encode o)
  | some a => each a
  | none => .null

/-! ## Values that are read back -/

/-- Whether a value is the one that is decoded from the text of its document. -/
def ReadsBack {α : Type} (write : Json → String) (encode : α → Json) (decode : Json → Option α)
    (a : α) : Prop :=
  (parse? (write (encode a))).bind decode = some a

instance {α : Type} [DecidableEq α] (write : Json → String) (encode : α → Json)
    (decode : Json → Option α) (a : α) : Decidable (ReadsBack write encode decode a) :=
  inferInstanceAs (Decidable (_ = _))

/-- Whether it is, from one line and from several. -/
abbrev Recovers {α : Type} (encode : α → Json) (decode : Json → Option α) (a : α) : Prop :=
  ReadsBack compact encode decode a ∧ ReadsBack pretty encode decode a

/-- A 32-bit number whose text is read as the same number. It is finite: the others have
no text of their own. -/
abbrev Exact (x : Float32) : Prop := ReadsBack compact single asSingle? x

/-- A 64-bit number whose text is read as the same number. -/
abbrev ExactDouble (x : Float) : Prop := ReadsBack compact double asDouble? x

section Decoders

variable {α : Type} {encode : α → Json} {decode : Json → Option α}

/-- A value that comes back from its document comes back from both texts of it. -/
theorem recovers_of_decoded {a : α} (wellFormed : WellFormed (encode a))
    (decoded : decode (encode a) = some a) : Recovers encode decode a := by
  unfold Recovers ReadsBack
  rw [parse?_compact wellFormed, parse?_pretty wellFormed]
  exact ⟨decoded, decoded⟩

theorem asSingle?_single {x : Float32} (exact : Exact x) : asSingle? (single x) = some x := by
  have read : (parse? (compact (single x))).bind asSingle? = some x := exact
  rwa [parse?_compact (wellFormed_single x)] at read

theorem asDouble?_double {x : Float} (exact : ExactDouble x) : asDouble? (double x) = some x := by
  have read : (parse? (compact (double x))).bind asDouble? = some x := exact
  rwa [parse?_compact (wellFormed_double x)] at read

theorem asCount?_count {n limit : Nat} (wide : limit ≤ UInt64.size) (fits : n < limit) :
    asCount? limit (count n) = some n := by
  have known : n ≤ Number.maxCount := by
    have size : Number.maxCount + 1 = UInt64.size := rfl
    omega
  simp [asCount?, count, Numeral.toCount?, Numeral.quantity?, Numeral.ofNat, known, fits]

@[simp]
theorem asText?_text (s : String) : asText? (text s) = some s := rfl

@[simp]
theorem asBool?_bool (b : Bool) : asBool? (.bool b) = some b := rfl

@[simp]
theorem asChoice?_text (s : String) : asChoice? (text s) = some s := rfl

@[simp]
theorem asTagged?_record (key : String) (value : Json) :
    asTagged? (record [(key, value)]) = some (key, value) := rfl

theorem asList?_list {items : List α} (each : ∀ a ∈ items, decode (encode a) = some a) :
    asList? decode (list encode items) = some items := by
  unfold asList? list
  rw [mapM_eq_some_iff, List.forall₂_map_left_iff, List.forall₂_same]
  exact each

/-- A value that is there is told apart from null. -/
theorem asOption?_of_decoded {j : Json} {a : α} (strict : decode .null = none)
    (decoded : decode j = some a) : asOption? decode j = some (some a) := by
  have content : j ≠ .null := by
    rintro rfl
    rw [strict] at decoded
    cases decoded
  rw [asOption?, decoded]
  · rfl
  · exact content

theorem asOption?_orNull {o : Option α} (strict : decode .null = none)
    (each : ∀ a ∈ o, decode (encode a) = some a) :
    asOption? decode (orNull encode o) = some o := by
  cases o with
  | none => rfl
  | some a => exact asOption?_of_decoded strict (each a rfl)

theorem asMembers?_record (members : List (String × Json)) :
    asMembers? (record members) = some members := by
  unfold asMembers? record
  rw [mapM_eq_some_iff, List.forall₂_map_left_iff, List.forall₂_same]
  exact fun _ _ => rfl

end Decoders

/-! ## Records -/

namespace Record

theorem distinct_of_nodup {members : List (String × Json)}
    (nodup : (members.map (·.1)).Nodup) : distinct members = true := by
  induction members with
  | nil => rfl
  | cons m members ih =>
      rw [List.map_cons, List.nodup_cons] at nodup
      have fresh : ∀ f ∈ members, f.1 ≠ m.1 := fun f member same =>
        nodup.1 (List.mem_map.mpr ⟨f, member, same⟩)
      simpa [distinct, ih nodup.2] using fresh

/-- A record is found in its document if it has no members but those of the shape. -/
theorem read?_record {names : List String} {members : List (String × Json)}
    (known : (members.map (·.1)).Sublist names) (nodup : names.Nodup) :
    read? names (record members) = some ⟨false, members⟩ := by
  have all : members.filter (fun m => names.contains m.1) = members := by
    rw [List.filter_eq_self]
    intro m member
    exact List.contains_iff_mem.mpr (known.subset (List.mem_map_of_mem member))
  have distinct : distinct members = true := distinct_of_nodup (known.nodup nodup)
  have found := asMembers?_record members
  unfold record at found ⊢
  rw [read?.eq_def]
  dsimp only
  rw [found]
  dsimp only
  rw [all, distinct]
  rfl

@[simp]
theorem find?_cons (positional : Bool) (other name : String) (j : Json)
    (rest : List (String × Json)) :
    find? ⟨positional, (other, j) :: rest⟩ name =
      if name = other then some j else find? ⟨positional, rest⟩ name :=
  lookup_entry other name j rest

@[simp]
theorem find?_nil (positional : Bool) (name : String) : find? ⟨positional, []⟩ name = none := rfl

end Record

end RobotCombat.Json
