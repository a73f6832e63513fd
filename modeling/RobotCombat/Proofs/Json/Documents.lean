/-
# RobotCombat.Proofs.Json.Documents — a document is read back from its text

`Reads text j` says that the reader finds `j` at the head of a text that starts with
`text`, wherever the text goes on. How such texts are put together does not depend on who
writes them: blanks may stand before any of them (`Reads.skip`), and arrays and objects
are read from texts of their items and members. The fuel of the reader is measured by the
text it has to cover, and every nested text is shorter by a bracket or a comma.

The two writers then only have to be followed, each along its own recursion.

* `parse?_compact`, `parse?_pretty`: a document whose numerals have decimal digits is the
  one that is read from its text.
-/
import RobotCombat.Proofs.Json.Tokens

namespace RobotCombat.Json

set_option autoImplicit false

open Number (isDigit)

/-! ## Texts that are read, whoever wrote them -/

/-- A value is read from a text, whatever follows, with fuel for the text. -/
def Reads (text : List Char) (j : Json) : Prop :=
  ∀ (fuel : Nat) (rest : List Char), text.length ≤ fuel → EndsNumber rest →
    value? fuel (text ++ rest) = some (j, rest)

/-- So are the items of an array that is not empty, with its closing bracket. -/
def ReadsItems (text : List Char) (items : List Json) : Prop :=
  ∀ (fuel : Nat) (rest : List Char), text.length ≤ fuel →
    items? fuel (text ++ rest) = some (items, rest)

/-- So are the members of an object that is not empty, with its closing brace. -/
def ReadsMembers (text : List Char) (members : List (Option String × Json)) : Prop :=
  ∀ (fuel : Nat) (rest : List Char), text.length ≤ fuel →
    members? fuel (text ++ rest) = some (members, rest)

/-- A text of blanks, which may be empty. -/
def Blank (text : List Char) : Prop := ∀ c ∈ text, isBlank c = true

section Blanks

variable {gap : List Char}

theorem skipBlanks_append (blank : Blank gap) (text : List Char) :
    skipBlanks (gap ++ text) = skipBlanks text :=
  List.dropWhile_append_of_pos blank

theorem skipBlanks_cons {c : Char} (solid : isBlank c = false) (text : List Char) :
    skipBlanks (c :: text) = c :: text := by
  simp [skipBlanks, solid]

theorem skipBlanks_skipBlanks (text : List Char) : skipBlanks (skipBlanks text) = skipBlanks text :=
  List.dropWhile_idempotent isBlank text

theorem value?_skipBlanks (fuel : Nat) (text : List Char) :
    value? fuel (skipBlanks text) = value? fuel text := by
  cases fuel with
  | zero => rfl
  | succ fuel => rw [value?, value?, skipBlanks_skipBlanks]

theorem items?_skipBlanks (fuel : Nat) (text : List Char) :
    items? fuel (skipBlanks text) = items? fuel text := by
  cases fuel with
  | zero => rfl
  | succ fuel => rw [items?, items?, value?_skipBlanks]

theorem members?_skipBlanks (fuel : Nat) (text : List Char) :
    members? fuel (skipBlanks text) = members? fuel text := by
  cases fuel with
  | zero => rfl
  | succ fuel => rw [members?, members?, skipBlanks_skipBlanks]

/-- A number is over before blanks and before punctuation. -/
theorem endsNumber_append (blank : Blank gap) {c : Char} (rest : List Char)
    (mark : c = ',' ∨ c = ']' ∨ c = '\x7d') : EndsNumber (gap ++ c :: rest) := by
  intro d first
  cases gap with
  | nil =>
      obtain rfl : c = d := Option.some.inj first
      rcases mark with rfl | rfl | rfl <;> decide
  | cons other gap =>
      obtain rfl : other = d := Option.some.inj first
      have blank := blank other List.mem_cons_self
      simp only [isBlank, Bool.or_eq_true, decide_eq_true_eq] at blank
      rcases blank with ((rfl | rfl) | rfl) | rfl <;> decide

end Blanks

section Compose

variable {text later gap : List Char} {j : Json} {items : List Json}
  {members : List (Option String × Json)}

theorem Reads.skip (blank : Blank gap) (read : Reads text j) : Reads (gap ++ text) j := by
  intro fuel rest enough ends
  rw [List.length_append] at enough
  rw [List.append_assoc, ← value?_skipBlanks, skipBlanks_append blank, value?_skipBlanks]
  exact read fuel rest (by omega) ends

theorem ReadsItems.skip (blank : Blank gap) (read : ReadsItems text items) :
    ReadsItems (gap ++ text) items := by
  intro fuel rest enough
  rw [List.length_append] at enough
  rw [List.append_assoc, ← items?_skipBlanks, skipBlanks_append blank, items?_skipBlanks]
  exact read fuel rest (by omega)

theorem ReadsMembers.skip (blank : Blank gap) (read : ReadsMembers text members) :
    ReadsMembers (gap ++ text) members := by
  intro fuel rest enough
  rw [List.length_append] at enough
  rw [List.append_assoc, ← members?_skipBlanks, skipBlanks_append blank, members?_skipBlanks]
  exact read fuel rest (by omega)

/-! ### Words, numbers and strings -/

theorem reads_null : Reads ['n', 'u', 'l', 'l'] .null
  | _ + 1, _, _, _ => rfl

theorem reads_true : Reads ['t', 'r', 'u', 'e'] (.bool true)
  | _ + 1, _, _, _ => rfl

theorem reads_false : Reads ['f', 'a', 'l', 's', 'e'] (.bool false)
  | _ + 1, _, _, _ => rfl

theorem reads_string (s : Option String) : Reads (stringToken s) (.string s) := by
  intro fuel rest enough _
  obtain ⟨body, token, read⟩ := stringBody?_stringToken s rest
  rw [token] at enough ⊢
  obtain ⟨fuel, rfl⟩ := Nat.exists_eq_succ_of_ne_zero (Nat.ne_zero_of_lt enough)
  change (stringBody? (body ++ rest)).map _ = _
  rw [read]
  rfl

/-- At a minus or a digit the reader takes a number. -/
theorem value?_numeral {c : Char} (low : 45 ≤ c.toNat) (high : c.toNat ≤ 57) (fuel : Nat)
    (text : List Char) :
    value? (fuel + 1) (c :: text) = (numeral? (c :: text)).map fun (n, rest) => (.number n, rest) := by
  have other (d : Char) (outside : d.toNat < 45 ∨ 57 < d.toNat) : c ≠ d := by
    rintro rfl
    omega
  have solid : skipBlanks (c :: text) = c :: text := by
    simp [skipBlanks, isBlank, other]
  rw [value?, solid]
  -- the last branch is the number; every other one has its own first character
  split
  case h_8 => rfl
  case h_1 empty => cases empty
  all_goals
    rename_i start
    exact absurd (List.cons.inj start).1 (other _ (by decide))

theorem reads_number {n : Numeral} (digits : ∀ d ∈ n.fraction, d < 10) :
    Reads n.chars (.number n) := by
  intro fuel rest enough ends
  have read := numeral?_chars digits ends
  obtain ⟨c, later, written, low, high⟩ := n.chars_eq_cons
  rw [written] at enough read ⊢
  obtain ⟨fuel, rfl⟩ := Nat.exists_eq_succ_of_ne_zero (Nat.ne_zero_of_lt enough)
  rw [List.cons_append] at read ⊢
  rw [value?_numeral low high, read]
  rfl

/-! ### Arrays -/

theorem readsItems_one (read : Reads text j) (blank : Blank gap) :
    ReadsItems (text ++ (gap ++ [']'])) [j] := by
  intro fuel rest enough
  -- one of the fuel goes to the list; the bracket makes up for it
  simp only [List.length_append, List.length_singleton] at enough
  obtain ⟨fuel, rfl⟩ := Nat.exists_eq_succ_of_ne_zero (show fuel ≠ 0 by omega)
  have item := read fuel (gap ++ ']' :: rest) (by omega) (endsNumber_append blank rest (by simp))
  simp only [List.append_assoc, List.singleton_append]
  rw [items?, item]
  simp only [skipBlanks_append blank]
  rfl

theorem readsItems_cons (read : Reads text j) (blank : Blank gap)
    (others : ReadsItems later items) :
    ReadsItems (text ++ (gap ++ ',' :: later)) (j :: items) := by
  intro fuel rest enough
  simp only [List.length_append, List.length_cons] at enough
  obtain ⟨fuel, rfl⟩ := Nat.exists_eq_succ_of_ne_zero (show fuel ≠ 0 by omega)
  have item := read fuel (gap ++ ',' :: (later ++ rest)) (by omega)
    (endsNumber_append blank _ (by simp))
  have tail := others fuel rest (by omega)
  simp only [List.append_assoc, List.cons_append]
  rw [items?, item]
  simp only [skipBlanks_append blank]
  change (items? fuel (later ++ rest)).map _ = _
  rw [tail]
  rfl

/-- No item starts with the closing bracket. -/
theorem items?_bracket (fuel : Nat) {text rest : List Char}
    (closed : skipBlanks text = ']' :: rest) : items? fuel text = none := by
  rw [← items?_skipBlanks, closed]
  match fuel with
  | 0 => rfl
  | 1 => rfl
  | fuel + 2 => rfl

theorem reads_emptyArray : Reads ['[', ']'] (.array [])
  | _ + 1, _, _, _ => rfl

theorem value?_bracket (fuel : Nat) (text : List Char) :
    value? (fuel + 1) ('[' :: text) =
      match skipBlanks text with
      | ']' :: rest => some (array [], rest)
      | rest => (items? fuel rest).map fun (items, rest) => (array items, rest) := rfl

theorem reads_array (read : ReadsItems text items) : Reads ('[' :: text) (.array items) := by
  intro fuel rest enough _
  obtain ⟨fuel, rfl⟩ := Nat.exists_eq_succ_of_ne_zero (Nat.ne_zero_of_lt enough)
  have inside := read fuel rest (Nat.le_of_succ_le_succ enough)
  rw [List.cons_append, value?_bracket]
  split
  · rename_i closed
    rw [items?_bracket fuel closed] at inside
    cases inside
  · rw [items?_skipBlanks, inside]
    rfl

/-! ### Objects -/

/-- The members of an object after the key of the first. -/
def membersAfterKey? (fuel : Nat) (key : Option String) (text : List Char) :
    Option (List (Option String × Json) × List Char) :=
  match skipBlanks text with
  | ':' :: rest =>
    match value? fuel rest with
    | none => none
    | some (value, rest) =>
      match skipBlanks rest with
      | '\x7d' :: rest => some ([(key, value)], rest)
      | ',' :: rest => (members? fuel rest).map fun (members, rest) => ((key, value) :: members, rest)
      | _ => none
  | _ => none

theorem members?_quote (fuel : Nat) (text : List Char) :
    members? (fuel + 1) ('"' :: text) =
      match stringBody? text with
      | none => none
      | some (key, rest) => membersAfterKey? fuel key rest := rfl

theorem members?_stringToken (key : Option String) (fuel : Nat) (text : List Char) :
    members? (fuel + 1) (stringToken key ++ text) = membersAfterKey? fuel key text := by
  obtain ⟨body, token, read⟩ := stringBody?_stringToken key text
  rw [token, List.cons_append, members?_quote, read]

theorem membersAfterKey?_last (key : Option String) {fuel : Nat} {text rest : List Char}
    (value : value? fuel text = some (j, gap ++ '\x7d' :: rest)) (blank : Blank gap) :
    membersAfterKey? fuel key (':' :: text) = some ([(key, j)], rest) := by
  have closed : skipBlanks (gap ++ '\x7d' :: rest) = '\x7d' :: rest := skipBlanks_append blank _
  rw [membersAfterKey?, skipBlanks_cons (by decide)]
  simp only [value, closed]

theorem membersAfterKey?_more (key : Option String) {fuel : Nat} {text rest : List Char}
    (value : value? fuel text = some (j, gap ++ ',' :: rest)) (blank : Blank gap) :
    membersAfterKey? fuel key (':' :: text) =
      (members? fuel rest).map fun (members, rest) => ((key, j) :: members, rest) := by
  have comma : skipBlanks (gap ++ ',' :: rest) = ',' :: rest := skipBlanks_append blank _
  rw [membersAfterKey?, skipBlanks_cons (by decide)]
  simp only [value, comma]

theorem readsMembers_one (key : Option String) {colon : List Char} (space : Blank colon)
    (read : Reads text j) (blank : Blank gap) :
    ReadsMembers (stringToken key ++ ':' :: (colon ++ (text ++ (gap ++ ['\x7d'])))) [(key, j)] := by
  intro fuel rest enough
  simp only [List.length_append, List.length_cons] at enough
  obtain ⟨fuel, rfl⟩ := Nat.exists_eq_succ_of_ne_zero (show fuel ≠ 0 by omega)
  have value := read.skip space fuel (gap ++ '\x7d' :: rest) (by simp; omega)
    (endsNumber_append blank rest (by simp))
  simp only [List.append_assoc, List.cons_append, List.nil_append] at value ⊢
  rw [members?_stringToken]
  exact membersAfterKey?_last key value blank

theorem readsMembers_cons (key : Option String) {colon : List Char} (space : Blank colon)
    (read : Reads text j) (blank : Blank gap) (others : ReadsMembers later members) :
    ReadsMembers (stringToken key ++ ':' :: (colon ++ (text ++ (gap ++ ',' :: later))))
      ((key, j) :: members) := by
  intro fuel rest enough
  simp only [List.length_append, List.length_cons] at enough
  obtain ⟨fuel, rfl⟩ := Nat.exists_eq_succ_of_ne_zero (show fuel ≠ 0 by omega)
  have value := read.skip space fuel (gap ++ ',' :: (later ++ rest)) (by simp; omega)
    (endsNumber_append blank _ (by simp))
  have tail := others fuel rest (by omega)
  simp only [List.append_assoc, List.cons_append] at value ⊢
  rw [members?_stringToken, membersAfterKey?_more key value blank, tail]
  rfl

theorem reads_emptyObject : Reads ['\x7b', '\x7d'] (.object [])
  | _ + 1, _, _, _ => rfl

/-- No member starts with the closing brace. -/
theorem members?_brace (fuel : Nat) {text rest : List Char}
    (closed : skipBlanks text = '\x7d' :: rest) : members? fuel text = none := by
  rw [← members?_skipBlanks, closed]
  match fuel with
  | 0 => rfl
  | fuel + 1 => rfl

theorem value?_brace (fuel : Nat) (text : List Char) :
    value? (fuel + 1) ('\x7b' :: text) =
      match skipBlanks text with
      | '\x7d' :: rest => some (object [], rest)
      | rest => (members? fuel rest).map fun (members, rest) => (object members, rest) := rfl

theorem reads_object (read : ReadsMembers text members) :
    Reads ('\x7b' :: text) (.object members) := by
  intro fuel rest enough _
  obtain ⟨fuel, rfl⟩ := Nat.exists_eq_succ_of_ne_zero (Nat.ne_zero_of_lt enough)
  have inside := read fuel rest (Nat.le_of_succ_le_succ enough)
  rw [List.cons_append, value?_brace]
  split
  · rename_i closed
    rw [members?_brace fuel closed] at inside
    cases inside
  · rw [members?_skipBlanks, inside]
    rfl

end Compose

/-! ## The two writers -/

/-- A document whose numerals have decimal digits after the point. -/
inductive WellFormed : Json → Prop where
  | null : WellFormed .null
  | bool (b : Bool) : WellFormed (.bool b)
  | number {n : Numeral} (digits : ∀ d ∈ n.fraction, d < 10) : WellFormed (.number n)
  | string (s : Option String) : WellFormed (.string s)
  | array {items : List Json} (each : ∀ item ∈ items, WellFormed item) : WellFormed (.array items)
  | object {members : List (Option String × Json)} (each : ∀ m ∈ members, WellFormed m.2) :
      WellFormed (.object members)

theorem Blank.nil : Blank [] := by simp [Blank]

theorem blank_newLine (depth : Nat) : Blank (newLine depth) := by
  intro c member
  rcases List.mem_cons.mp member with rfl | space
  · rfl
  · rw [List.eq_of_mem_replicate space]
    rfl

theorem reads_compactItems (items : List Json) : ∀ {item : Json},
    (∀ j ∈ item :: items, Reads (compactChars j) j) →
      ReadsItems (compactItems (item :: items)) (item :: items) := by
  induction items with
  | nil =>
      intro item each
      exact readsItems_one (each item (by simp)) Blank.nil
  | cons next items ih =>
      intro item each
      have first := each item (by simp)
      have others : ReadsItems (compactItems (next :: items)) (next :: items) :=
        ih fun j among => each j (List.mem_cons_of_mem _ among)
      rw [compactItems]
      · exact readsItems_cons first Blank.nil others
      · intro empty
        cases empty

theorem reads_compactMembers (members : List (Option String × Json)) :
    ∀ {member : Option String × Json}, (∀ m ∈ member :: members, Reads (compactChars m.2) m.2) →
      ReadsMembers (compactMembers (member :: members)) (member :: members) := by
  induction members with
  | nil =>
      intro member each
      have one := readsMembers_one member.1 Blank.nil (each member (by simp)) Blank.nil
      simpa [compactMembers] using one
  | cons next members ih =>
      intro member each
      have others : ReadsMembers (compactMembers (next :: members)) (next :: members) :=
        ih fun m among => each m (List.mem_cons_of_mem _ among)
      have all := readsMembers_cons member.1 Blank.nil (each member (by simp)) Blank.nil others
      simpa [compactMembers] using all

theorem reads_compact {j : Json} (wellFormed : WellFormed j) : Reads (compactChars j) j := by
  induction wellFormed with
  | null => exact reads_null
  | bool b =>
      cases b with
      | true => exact reads_true
      | false => exact reads_false
  | number digits => exact reads_number digits
  | string s => exact reads_string s
  | @array items _ ih =>
      cases items with
      | nil => exact reads_emptyArray
      | cons item items => exact reads_array (reads_compactItems items ih)
  | @object members _ ih =>
      cases members with
      | nil => exact reads_emptyObject
      | cons member members => exact reads_object (reads_compactMembers members ih)

theorem reads_prettyItems (depth : Nat) (items : List Json) : ∀ {item : Json},
    (∀ j ∈ item :: items, Reads (prettyChars (depth + 1) j) j) →
      ReadsItems (prettyChars (depth + 1) item ++ prettyItems depth items) (item :: items) := by
  induction items with
  | nil =>
      intro item each
      exact readsItems_one (each item (by simp)) (blank_newLine depth)
  | cons next items ih =>
      intro item each
      have others : ReadsItems (prettyChars (depth + 1) next ++ prettyItems depth items)
          (next :: items) := ih fun j among => each j (List.mem_cons_of_mem _ among)
      have all := readsItems_cons (each item (by simp)) Blank.nil
        (others.skip (blank_newLine (depth + 1)))
      simpa [prettyItems] using all

theorem reads_prettyMembers (depth : Nat) (members : List (Option String × Json)) :
    ∀ {member : Option String × Json},
      (∀ m ∈ member :: members, Reads (prettyChars (depth + 1) m.2) m.2) →
      ReadsMembers (stringToken member.1 ++ ':' :: ' ' :: prettyChars (depth + 1) member.2 ++
        prettyMembers depth members) (member :: members) := by
  have space : Blank [' '] := by simp [Blank, isBlank]
  induction members with
  | nil =>
      intro member each
      have one := readsMembers_one member.1 space (each member (by simp)) (blank_newLine depth)
      simpa [prettyMembers] using one
  | cons next members ih =>
      intro member each
      have others := ih fun m among => each m (List.mem_cons_of_mem member among)
      have all := readsMembers_cons member.1 space (each member (by simp)) Blank.nil
        (others.skip (blank_newLine (depth + 1)))
      simpa [prettyMembers] using all

theorem reads_pretty {j : Json} (wellFormed : WellFormed j) :
    ∀ depth, Reads (prettyChars depth j) j := by
  induction wellFormed with
  | null => exact fun _ => reads_null
  | bool b =>
      cases b with
      | true => exact fun _ => reads_true
      | false => exact fun _ => reads_false
  | number digits => exact fun _ => reads_number digits
  | string s => exact fun _ => reads_string s
  | @array items _ ih =>
      intro depth
      cases items with
      | nil => exact reads_emptyArray
      | cons item items =>
          have read := reads_prettyItems depth items fun j among => ih j among (depth + 1)
          simpa [prettyChars] using reads_array (read.skip (blank_newLine (depth + 1)))
  | @object members _ ih =>
      intro depth
      cases members with
      | nil => exact reads_emptyObject
      | cons member members =>
          have read := reads_prettyMembers depth members fun m among => ih m among (depth + 1)
          simpa [prettyChars] using reads_object (read.skip (blank_newLine (depth + 1)))

theorem parse?_ofList {text : List Char} {j : Json} (read : Reads text j) :
    parse? (String.ofList text) = some j := by
  have whole := read (text.length + 1) [] (Nat.le_succ _) (by simp [EndsNumber])
  rw [List.append_nil] at whole
  simp only [parse?, String.toList_ofList, whole]
  rfl

/-- A document is read back from one line. -/
theorem parse?_compact {j : Json} (wellFormed : WellFormed j) : parse? (compact j) = some j :=
  parse?_ofList (reads_compact wellFormed)

/-- A document is read back from several lines. -/
theorem parse?_pretty {j : Json} (wellFormed : WellFormed j) : parse? (pretty j) = some j :=
  parse?_ofList (reads_pretty wellFormed 0)

end RobotCombat.Json
