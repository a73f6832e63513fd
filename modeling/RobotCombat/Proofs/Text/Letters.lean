/-
# RobotCombat.Proofs.Text.Letters — cutting a text is no matter of letter case

Blanks, separators, word characters and digits are told apart from the rest without a look at
letter case, so a text in small letters is cut where the text is: each cut commutes with
`lower`. What the cuts look for themselves is never a letter (`Caseless`), but for keywords,
which are compared by `sameLetters`, and for the `e` of an exponent.

* `trim_lower`, `lines_lower`, `splitLast_lower`, `dropKeyword?_lower`: the cuts;
* `readSingle?_lower`: a text writes the same number in small letters.
-/
import RobotCombat.Proofs.Text.Words
import RobotCombat.Number.Literal

namespace RobotCombat.Text

set_option autoImplicit false

/-! ## Characters -/

/-- A character without letter case. -/
def Caseless (c : Char) : Prop :=
  ¬ (65 ≤ c.toNat ∧ c.toNat ≤ 90) ∧ ¬ (97 ≤ c.toNat ∧ c.toNat ≤ 122)

instance (c : Char) : Decidable (Caseless c) :=
  inferInstanceAs (Decidable (¬ (65 ≤ c.toNat ∧ c.toNat ≤ 90) ∧ ¬ (97 ≤ c.toNat ∧ c.toNat ≤ 122)))

theorem toLower_eq_iff {c d : Char} (caseless : Caseless d) : c.toLower = d ↔ c = d := by
  obtain ⟨capital, small⟩ := caseless
  rw [← Char.toNat_inj, ← Char.toNat_inj, toNat_toLower]
  split <;> omega

theorem toLower_toLower (c : Char) : c.toLower.toLower = c.toLower := by
  rw [← Char.toNat_inj, toNat_toLower c.toLower, if_neg]
  rw [toNat_toLower]
  split <;> omega

/-- Only capitals have another letter for a small one. -/
theorem toLower_of_not_capital {c : Char} (other : ¬ (65 ≤ c.toNat ∧ c.toNat ≤ 90)) :
    c.toLower = c := by
  rw [← Char.toNat_inj, toNat_toLower, if_neg other]

theorem isBlank_toLower (c : Char) : isBlank c.toLower = isBlank c := by
  by_cases capital : 65 ≤ c.toNat ∧ c.toNat ≤ 90
  · have word : isWordChar c = true := isWordChar_iff.mpr (.inl capital)
    have word' : isWordChar c.toLower = true := (isWordChar_toLower c).trans word
    rw [isBlank_of_isWordChar word, isBlank_of_isWordChar word']
  · rw [toLower_of_not_capital capital]

/-! ## Runs and ends -/

section Runs

variable {p : Char → Bool}

@[simp] theorem lower_nil : lower [] = [] := rfl

@[simp] theorem lower_cons (c : Char) (text : List Char) :
    lower (c :: text) = c.toLower :: lower text := rfl

@[simp] theorem length_lower (text : List Char) : (lower text).length = text.length :=
  List.length_map _

@[simp] theorem isEmpty_lower (text : List Char) : (lower text).isEmpty = text.isEmpty :=
  List.isEmpty_map

theorem lower_append (text rest : List Char) : lower (text ++ rest) = lower text ++ lower rest :=
  List.map_append

theorem lower_reverse (text : List Char) : lower text.reverse = (lower text).reverse :=
  List.map_reverse

@[simp] theorem lower_lower (text : List Char) : lower (lower text) = lower text := by
  have settled : Char.toLower ∘ Char.toLower = Char.toLower := funext toLower_toLower
  rw [lower, lower, List.map_map, settled]

theorem takeWhile_lower (blind : ∀ c, p c.toLower = p c) (text : List Char) :
    (lower text).takeWhile p = lower (text.takeWhile p) := by
  have same : p ∘ Char.toLower = p := funext blind
  rw [lower, List.takeWhile_map, same]
  rfl

theorem dropWhile_lower (blind : ∀ c, p c.toLower = p c) (text : List Char) :
    (lower text).dropWhile p = lower (text.dropWhile p) := by
  have same : p ∘ Char.toLower = p := funext blind
  rw [lower, List.dropWhile_map, same]
  rfl

end Runs

variable (text : List Char)

theorem trimStart_lower : trimStart (lower text) = lower (trimStart text) :=
  dropWhile_lower isBlank_toLower text

theorem trimEnd_lower : trimEnd (lower text) = lower (trimEnd text) := by
  unfold trimEnd
  rw [← lower_reverse, dropWhile_lower isBlank_toLower, lower_reverse]

theorem trim_lower : trim (lower text) = lower (trim text) := by
  unfold trim
  rw [trimStart_lower, trimEnd_lower]

theorem solid_toLower (c : Char) : (!isBlank c.toLower) = !isBlank c := by
  rw [isBlank_toLower]

theorem takeSolid_lower :
    (lower text).takeWhile (fun c => !isBlank c) = lower (text.takeWhile fun c => !isBlank c) :=
  takeWhile_lower (p := fun c => !isBlank c) solid_toLower text

theorem dropSolid_lower :
    (lower text).dropWhile (fun c => !isBlank c) = lower (text.dropWhile fun c => !isBlank c) :=
  dropWhile_lower (p := fun c => !isBlank c) solid_toLower text

theorem splitLast_lower :
    splitLast (lower text) = (lower (splitLast text).1, lower (splitLast text).2) := by
  unfold splitLast
  dsimp only
  rw [← lower_reverse, dropSolid_lower, takeSolid_lower, lower_reverse, lower_reverse]

theorem startsBlank_lower : startsBlank (lower text) = startsBlank text := by
  cases text with
  | nil => rfl
  | cons c rest => exact isBlank_toLower c

theorem isWord_lower : isWord (lower text) = isWord text := by
  have same : isWordChar ∘ Char.toLower = isWordChar := funext isWordChar_toLower
  unfold isWord
  rw [isEmpty_lower, lower, List.all_map, same]

/-! ## Words and separators -/

theorem sameLetters_lower_left (word : List Char) :
    sameLetters (lower text) word = sameLetters text word := by
  unfold sameLetters
  rw [lower_lower]

theorem sameLetters_lower_right (word : List Char) :
    sameLetters word (lower text) = sameLetters word text := by
  unfold sameLetters
  rw [lower_lower]

theorem dropKeyword?_lower (keyword : List Char) :
    dropKeyword? keyword (lower text) = (dropKeyword? keyword text).map lower := by
  have start : (lower text).take keyword.length = lower (text.take keyword.length) :=
    List.map_take.symm
  have rest : (lower text).drop keyword.length = lower (text.drop keyword.length) :=
    List.map_drop.symm
  unfold dropKeyword?
  rw [start, rest, sameLetters_lower_left]
  split
  · rfl
  · rfl

theorem startsWith_lower {start : List Char} (caseless : ∀ d ∈ start, Caseless d) :
    startsWith (lower text) start = startsWith text start := by
  unfold startsWith
  induction start generalizing text with
  | nil => rfl
  | cons d start ih =>
      cases text with
      | nil => rfl
      | cons c text =>
          have later := ih text fun d' member => caseless d' (List.mem_cons_of_mem d member)
          have first : (d == c.toLower) = (d == c) := by
            rw [Bool.eq_iff_iff, beq_iff_eq, beq_iff_eq, eq_comm,
              toLower_eq_iff (caseless d List.mem_cons_self), eq_comm]
          rw [lower_cons, List.isPrefixOf, List.isPrefixOf, first, later]

theorem splitAt_lower {separator : Char} (caseless : Caseless separator) :
    splitAt separator (lower text) = (splitAt separator text).map lower := by
  induction text with
  | nil => rfl
  | cons c text ih =>
      rw [lower_cons, splitAt, splitAt, ih]
      by_cases here : c = separator
      · rw [if_pos here, if_pos ((toLower_eq_iff caseless).mpr here)]
        rfl
      · rw [if_neg here, if_neg (mt (toLower_eq_iff caseless).mp here)]
        cases splitAt separator text <;> rfl

theorem lines_lower : lines (lower text) = (lines text).map lower :=
  splitAt_lower text (by decide)

end RobotCombat.Text

/-! ## Numerals -/

namespace RobotCombat.Number

open Text

theorem digitValue?_toLower (c : Char) : digitValue? c.toLower = digitValue? c := by
  have bounds : ∀ c : Char, ('0' ≤ c ∧ c ≤ '9') ↔ 48 ≤ c.toNat ∧ c.toNat ≤ 57 := fun _ => Iff.rfl
  by_cases capital : 65 ≤ c.toNat ∧ c.toNat ≤ 90
  · have lowered : c.toLower.toNat = c.toNat + 32 := by rw [toNat_toLower, if_pos capital]
    unfold digitValue?
    rw [if_neg, if_neg] <;> rw [bounds] <;> omega
  · rw [toLower_of_not_capital capital]

theorem isDigit_toLower (c : Char) : isDigit c.toLower = isDigit c := by
  unfold isDigit
  rw [digitValue?_toLower]

theorem digitsValue_lower (digits : List Char) : digitsValue (lower digits) = digitsValue digits := by
  simp [digitsValue, lower, List.foldl_map, digitValue?_toLower]

theorem splitSign_lower (text : List Char) :
    splitSign (lower text) = ((splitSign text).1, lower (splitSign text).2) := by
  cases text with
  | nil => rfl
  | cons c rest =>
      have unsigned : ∀ {c : Char} {rest : List Char}, c ≠ '+' → c ≠ '-' →
          splitSign (c :: rest) = (false, c :: rest) := by
        intro c rest plus minus
        unfold splitSign
        split <;> simp_all
      by_cases plus : c = '+'
      · subst plus
        rfl
      · by_cases minus : c = '-'
        · subst minus
          rfl
        · have plus' : c.toLower ≠ '+' := mt (toLower_eq_iff (by decide)).mp plus
          have minus' : c.toLower ≠ '-' := mt (toLower_eq_iff (by decide)).mp minus
          rw [lower_cons, unsigned plus' minus', unsigned plus minus]
          rfl

/-- An exponent may be marked by a small or a capital letter. -/
theorem toLower_marks_iff (c : Char) :
    (c.toLower = 'e' ∨ c.toLower = 'E') ↔ (c = 'e' ∨ c = 'E') := by
  have e : 'e'.toNat = 101 := rfl
  have E : 'E'.toNat = 69 := rfl
  simp only [← Char.toNat_inj, toNat_toLower, e, E]
  split <;> omega

theorem exponentPart?_lower (text : List Char) :
    exponentPart? (lower text) = exponentPart? text := by
  cases text with
  | nil => rfl
  | cons c rest =>
      have digits : isDigit ∘ Char.toLower = isDigit := funext isDigit_toLower
      have all : ∀ digits' : List Char, (lower digits').all isDigit = digits'.all isDigit := by
        intro digits'
        rw [lower, List.all_map, digits]
      rw [lower_cons]
      unfold exponentPart?
      simp only [toLower_marks_iff, splitSign_lower, isEmpty_lower, all, digitsValue_lower]

theorem fractionPart_lower (text : List Char) :
    fractionPart (lower text) = (lower (fractionPart text).1, lower (fractionPart text).2) := by
  cases text with
  | nil => rfl
  | cons c rest =>
      have pointless : ∀ {c : Char} {rest : List Char}, c ≠ '.' →
          fractionPart (c :: rest) = ([], c :: rest) := by
        intro c rest other
        unfold fractionPart
        split <;> simp_all
      by_cases point : c = '.'
      · subst point
        show ((lower rest).takeWhile isDigit, (lower rest).dropWhile isDigit) = _
        rw [takeWhile_lower isDigit_toLower, dropWhile_lower isDigit_toLower]
        rfl
      · have point' : c.toLower ≠ '.' := mt (toLower_eq_iff (by decide)).mp point
        rw [lower_cons, pointless point', pointless point]
        rfl

theorem unsignedNumeral?_lower (text : List Char) :
    unsignedNumeral? (lower text) = unsignedNumeral? text := by
  unfold unsignedNumeral?
  simp only [takeWhile_lower isDigit_toLower, dropWhile_lower isDigit_toLower, fractionPart_lower,
    isEmpty_lower, exponentPart?_lower, ← lower_append, digitsValue_lower, length_lower]

/-- A text in small letters writes the same number, or none either. -/
theorem readSingle?_lower (text : List Char) : readSingle? (lower text) = readSingle? text := by
  unfold readSingle?
  simp only [splitSign_lower, unsignedNumeral?_lower]

end RobotCombat.Number
