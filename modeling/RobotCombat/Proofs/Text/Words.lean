/-
# RobotCombat.Proofs.Text.Words — where a text is cut

Texts are cut at the end of a run of characters of one kind: `span_append` says
that a run which ends there is the one that is found. From it come the exact
descriptions of the three cuts that the language uses.

* `trim_eq_iff`: trimming takes blanks off both ends and leaves none there;
* `splitLast_eq_iff`: the last word is the run without a blank at the end;
* `dropKeyword?_eq_some_iff`: a keyword is found in any letter case.
-/
import RobotCombat.Text.Blank

namespace RobotCombat.Text

set_option autoImplicit false

/-- A run of blanks, which may be empty. -/
def Blanks (text : List Char) : Prop := ∀ c ∈ text, isBlank c = true

/-- A text without blanks at its ends. -/
structure Trimmed (text : List Char) : Prop where
  front : ∀ c ∈ text.head?, isBlank c = false
  back : ∀ c ∈ text.getLast?, isBlank c = false

theorem trimmed_iff {text : List Char} : Trimmed text ↔
    (text.head?.all (!isBlank ·) && text.getLast?.all (!isBlank ·)) = true := by
  simp only [Bool.and_eq_true, Option.all_eq_true, Bool.not_eq_true']
  exact ⟨fun trimmed => ⟨trimmed.front, trimmed.back⟩, fun ends => ⟨ends.1, ends.2⟩⟩

instance (text : List Char) : Decidable (Trimmed text) := decidable_of_iff _ trimmed_iff.symm

/-- A text is another one with blanks around it, and those are all. -/
def Trims (text core : List Char) : Prop :=
  ∃ left right, text = left ++ core ++ right ∧ Blanks left ∧ Blanks right ∧ Trimmed core

/-- A word where it stands: a run of characters without a blank that goes no further
on either side. -/
structure StandsAsWord (before word after : List Char) : Prop where
  nonempty : word ≠ []
  solid : ∀ c ∈ word, isBlank c = false
  starts : ∀ c ∈ before.getLast?, isBlank c = true
  stops : ∀ c ∈ after.head?, isBlank c = true

theorem standsAsWord_iff {before word after : List Char} : StandsAsWord before word after ↔
    (!word.isEmpty && word.all (!isBlank ·) && before.getLast?.all isBlank &&
      after.head?.all isBlank) = true := by
  simp only [Bool.and_eq_true, List.all_eq_true, Option.all_eq_true, Bool.not_eq_true',
    List.isEmpty_eq_false_iff]
  exact ⟨fun stands => ⟨⟨⟨stands.nonempty, stands.solid⟩, stands.starts⟩, stands.stops⟩,
    fun parts => ⟨parts.1.1.1, parts.1.1.2, parts.1.2, parts.2⟩⟩

instance (before word after : List Char) : Decidable (StandsAsWord before word after) :=
  decidable_of_iff _ standsAsWord_iff.symm

/-! ## Runs -/

section Runs

variable {p : Char → Bool} {front rest : List Char}

/-- A run that ends where its kind of character does is the one that is found. -/
theorem span_append (all : ∀ c ∈ front, p c = true) (stops : ∀ c ∈ rest.head?, p c = false) :
    (front ++ rest).takeWhile p = front ∧ (front ++ rest).dropWhile p = rest := by
  rw [List.takeWhile_append_of_pos all, List.dropWhile_append_of_pos all]
  cases rest with
  | nil => simp
  | cons c rest =>
      have stopped : p c = false := stops c rfl
      simp [stopped]

theorem mem_takeWhile {text : List Char} : ∀ c ∈ text.takeWhile p, p c = true :=
  List.all_eq_true.mp List.all_takeWhile

theorem head?_dropWhile {text : List Char} : ∀ c ∈ (text.dropWhile p).head?, p c = false := by
  intro c first
  have stop := List.head?_dropWhile_not p text
  rw [Option.mem_def.mp first] at stop
  exact stop

/-- A text ends as its last part does. -/
theorem mem_of_last {c : Char} (nonempty : rest ≠ []) (last : c ∈ (front ++ rest).getLast?) :
    c ∈ rest := by
  rw [List.getLast?_append, List.getLast?_eq_some_getLast nonempty] at last
  obtain rfl : rest.getLast nonempty = c := by simpa using last
  exact List.getLast_mem nonempty

/-- A run from the back, by reversal. -/
theorem span_reverse_append (all : ∀ c ∈ rest, p c = true)
    (stops : ∀ c ∈ front.getLast?, p c = false) :
    ((front ++ rest).reverse.takeWhile p).reverse = rest ∧
      ((front ++ rest).reverse.dropWhile p).reverse = front := by
  rw [List.reverse_append]
  have all : ∀ c ∈ rest.reverse, p c = true := by simpa using all
  have stops : ∀ c ∈ front.reverse.head?, p c = false := by simpa using stops
  obtain ⟨taken, dropped⟩ := span_append all stops
  rw [taken, dropped]
  simp

/-- A word is found from where it starts. -/
theorem StandsAsWord.span {before word after : List Char}
    (stands : StandsAsWord before word after) :
    (word ++ after).takeWhile (fun c => !isBlank c) = word ∧
      (word ++ after).dropWhile (fun c => !isBlank c) = after :=
  span_append (by simpa using stands.solid) (by simpa using stands.stops)

end Runs

/-! ## Blanks around a text -/

variable {text core head word : List Char}

theorem Trimmed.nil : Trimmed [] := ⟨by simp, by simp⟩

theorem trimStart_append {left rest : List Char} (blanks : Blanks left)
    (front : ∀ c ∈ rest.head?, isBlank c = false) : trimStart (left ++ rest) = rest :=
  (span_append blanks front).2

theorem trimEnd_append {front right : List Char} (blanks : Blanks right)
    (back : ∀ c ∈ front.getLast?, isBlank c = false) : trimEnd (front ++ right) = front :=
  (span_reverse_append blanks back).2

/-- A text is trimmed to what it is with blanks around. -/
theorem Trims.trim_eq (trims : Trims text core) : trim text = core := by
  obtain ⟨left, right, rfl, leftBlank, rightBlank, trimmed⟩ := trims
  unfold trim
  cases core with
  | nil =>
      -- only blanks: all of them go at the front
      have all : Blanks (left ++ right) := by
        intro c member
        rcases List.mem_append.mp member with l | r
        · exact leftBlank c l
        · exact rightBlank c r
      have nothing : trimStart (left ++ right ++ []) = [] := trimStart_append all (by simp)
      simp only [List.append_nil] at nothing ⊢
      rw [nothing]
      rfl
  | cons c core =>
      rw [List.append_assoc, trimStart_append leftBlank (by simpa using trimmed.front)]
      exact trimEnd_append rightBlank trimmed.back

theorem exists_trimEnd (text : List Char) :
    ∃ right, text = trimEnd text ++ right ∧ Blanks right := by
  refine ⟨(text.reverse.takeWhile isBlank).reverse, ?_, ?_⟩
  · unfold trimEnd
    rw [← List.reverse_append, List.takeWhile_append_dropWhile, List.reverse_reverse]
  · intro c member
    exact mem_takeWhile c (List.mem_reverse.mp member)

theorem trims_trim (text : List Char) : Trims text (trim text) := by
  have front : text = text.takeWhile isBlank ++ trimStart text :=
    (List.takeWhile_append_dropWhile).symm
  obtain ⟨right, back, blanks⟩ : ∃ right, trimStart text = trim text ++ right ∧ Blanks right :=
    exists_trimEnd (trimStart text)
  refine ⟨text.takeWhile isBlank, right, ?_, mem_takeWhile, blanks, ?_, ?_⟩
  · rw [List.append_assoc, ← back, ← front]
  · intro c first
    have start : c ∈ (trimStart text).head? := by
      rw [back, List.head?_append]
      simp [Option.mem_def.mp first]
    exact head?_dropWhile c start
  · intro c last
    unfold trim trimEnd at last
    rw [List.getLast?_reverse] at last
    exact head?_dropWhile c last

theorem trim_eq_iff : trim text = core ↔ Trims text core :=
  ⟨fun same => same ▸ trims_trim text, Trims.trim_eq⟩

theorem Trimmed.trims (trimmed : Trimmed text) : Trims text text :=
  ⟨[], [], by simp, by simp [Blanks], by simp [Blanks], trimmed⟩

theorem Trims.trimmed (trims : Trims text core) : Trimmed core := by
  obtain ⟨_, _, _, _, _, trimmed⟩ := trims
  exact trimmed

theorem Trimmed.trim_eq (trimmed : Trimmed text) : trim text = text := trimmed.trims.trim_eq

/-- Only blanks after a text that starts with a word are trimmed off. -/
theorem trim_solid_append {word : List Char} (nonempty : word ≠ [])
    (solid : ∀ c ∈ word, isBlank c = false) (rest : List Char) :
    trim (word ++ rest) = word ++ trimEnd rest := by
  obtain ⟨right, whole, blanks⟩ := exists_trimEnd rest
  refine trim_eq_iff.mpr ⟨[], right, ?_, by simp [Blanks], blanks, ?_, ?_⟩
  · rw [List.nil_append, List.append_assoc, ← whole]
  · intro c first
    obtain ⟨d, word, rfl⟩ := List.exists_cons_of_ne_nil nonempty
    exact solid c (List.mem_of_mem_head? (by simpa using first))
  · intro c last
    rcases List.eq_nil_or_concat (trimEnd rest) with none | ⟨core, d, ended⟩
    · rw [none, List.append_nil] at last
      exact solid c (List.mem_of_mem_getLast? last)
    · have back : c ∈ (trimEnd rest).getLast? := by
        rw [List.getLast?_append, ended] at last
        simpa [ended] using last
      unfold trimEnd at back
      rw [List.getLast?_reverse] at back
      exact head?_dropWhile c back

/-- Only blanks before a text that ends in a word are trimmed off. -/
theorem trim_append_solid {word : List Char} (nonempty : word ≠ [])
    (solid : ∀ c ∈ word, isBlank c = false) (front : List Char) :
    trim (front ++ word) = trimStart front ++ word := by
  have whole : front.takeWhile isBlank ++ trimStart front = front :=
    List.takeWhile_append_dropWhile
  refine trim_eq_iff.mpr ⟨front.takeWhile isBlank, [], ?_, mem_takeWhile, by simp [Blanks], ?_, ?_⟩
  · rw [List.append_nil, ← List.append_assoc, whole]
  · intro c first
    cases core : trimStart front with
    | nil =>
        rw [core, List.nil_append] at first
        exact solid c (List.mem_of_mem_head? first)
    | cons d rest =>
        obtain rfl : d = c := by simpa [core] using first
        have start : d ∈ (front.dropWhile isBlank).head? := by
          rw [show front.dropWhile isBlank = d :: rest from core]
          rfl
        exact head?_dropWhile d start
  · exact fun c last => solid c (mem_of_last nonempty last)

/-! ## The last word -/

/-- The last word is the run without a blank at the end of a text. -/
theorem splitLast_eq_iff : splitLast text = (head, word) ↔
    text = head ++ word ∧ (∀ c ∈ word, isBlank c = false) ∧
      ∀ c ∈ head.getLast?, isBlank c = true := by
  constructor
  · intro split
    simp only [splitLast, Prod.mk.injEq] at split
    obtain ⟨rfl, rfl⟩ := split
    refine ⟨?_, ?_, ?_⟩
    · rw [← List.reverse_append, List.takeWhile_append_dropWhile, List.reverse_reverse]
    · intro c member
      have solid := mem_takeWhile c (List.mem_reverse.mp member)
      simpa using solid
    · intro c last
      rw [List.getLast?_reverse] at last
      have stop := head?_dropWhile c last
      simpa using stop
  · rintro ⟨rfl, solid, start⟩
    have solid : ∀ c ∈ word, (!isBlank c) = true := by simpa using solid
    have start : ∀ c ∈ head.getLast?, (!isBlank c) = false := by simpa using start
    obtain ⟨taken, dropped⟩ := span_reverse_append solid start
    simp only [splitLast, taken, dropped]

/-! ## Word characters and letter case -/

/-- The word characters by number: capitals, small letters, digits, the underscore. -/
theorem isWordChar_iff {c : Char} : isWordChar c = true ↔
    65 ≤ c.toNat ∧ c.toNat ≤ 90 ∨ 97 ≤ c.toNat ∧ c.toNat ≤ 122 ∨ 48 ≤ c.toNat ∧ c.toNat ≤ 57 ∨
      c.toNat = 95 := by
  have underscore : c = '_' ↔ c.toNat = 95 := by rw [← Char.toNat_inj]; rfl
  have spelled : isWordChar c =
      (((decide (c.val ≥ 'A'.val ∧ c.val ≤ 'Z'.val) || (c.val ≥ 'a'.val && c.val ≤ 'z'.val))
        || (c.val ≥ '0'.val && c.val ≤ '9'.val)) || c = '_') := rfl
  simp only [spelled, Bool.or_eq_true, Bool.and_eq_true, decide_eq_true_eq,
    UInt32.le_iff_toNat_le, ge_iff_le, underscore, or_assoc]
  exact Iff.rfl

theorem isBlank_of_isWordChar {c : Char} (word : isWordChar c = true) : isBlank c = false := by
  rw [isWordChar_iff] at word
  simp [isBlank, blankRanges]
  omega

theorem toNat_toLower (c : Char) :
    c.toLower.toNat = if 65 ≤ c.toNat ∧ c.toNat ≤ 90 then c.toNat + 32 else c.toNat := by
  have bounds : (c.val ≥ 'A'.val ∧ c.val ≤ 'Z'.val) ↔ 65 ≤ c.toNat ∧ c.toNat ≤ 90 := by
    simp only [ge_iff_le, UInt32.le_iff_toNat_le]
    exact Iff.rfl
  by_cases capital : c.val ≥ 'A'.val ∧ c.val ≤ 'Z'.val
  · have lowered : c.toLower.val = c.val + ('a'.val - 'A'.val) :=
      congrArg Char.val (dif_pos capital)
    have last : c.val.toNat ≤ 90 := (bounds.mp capital).2
    have distance : ('a'.val - 'A'.val).toNat = 32 := rfl
    rw [if_pos (bounds.mp capital)]
    show c.toLower.val.toNat = c.val.toNat + 32
    rw [lowered, UInt32.toNat_add, distance]
    omega
  · have same : c.toLower = c := dif_neg capital
    rw [same, if_neg (mt bounds.mpr capital)]

theorem isWordChar_toLower (c : Char) : isWordChar c.toLower = isWordChar c := by
  rw [Bool.eq_iff_iff, isWordChar_iff, isWordChar_iff, toNat_toLower]
  split <;> omega

theorem sameLetters_iff {a b : List Char} : sameLetters a b = true ↔ lower a = lower b := by
  simp [sameLetters]

theorem sameLetters_comm {a b : List Char} (same : sameLetters a b = true) :
    sameLetters b a = true :=
  sameLetters_iff.mpr (sameLetters_iff.mp same).symm

theorem length_of_sameLetters {a b : List Char} (same : sameLetters a b = true) :
    a.length = b.length := by
  simpa [lower] using congrArg List.length (sameLetters_iff.mp same)

/-- A text that differs from a word in letter case only is one. -/
theorem isWordChar_of_sameLetters {a b : List Char} (same : sameLetters a b = true)
    (word : ∀ c ∈ b, isWordChar c = true) : ∀ c ∈ a, isWordChar c = true := by
  intro c member
  have small : c.toLower ∈ lower b := sameLetters_iff.mp same ▸ List.mem_map_of_mem member
  obtain ⟨d, member', letters⟩ := List.mem_map.mp small
  rw [← isWordChar_toLower, ← letters, isWordChar_toLower]
  exact word d member'

/-- A keyword is found at the start of a text in any letter case. -/
theorem dropKeyword?_eq_some_iff {keyword rest : List Char} :
    dropKeyword? keyword text = some rest ↔
      ∃ start, text = start ++ rest ∧ sameLetters start keyword = true := by
  unfold dropKeyword?
  constructor
  · intro found
    split at found
    · rename_i same
      exact ⟨text.take keyword.length, by simp [← Option.some.inj found], same⟩
    · cases found
  · rintro ⟨start, rfl, same⟩
    rw [← length_of_sameLetters same]
    simp [same]

end RobotCombat.Text
