/-
# RobotCombat.Proofs.Json.Tokens — numbers and strings are read back from their tokens

The reader finds the end of a token by itself, so each statement is about the token with
any rest of a text after it. The end of a number is found by what stands there
(`EndsNumber`); a string ends with its quote.

* `numeral?_chars`: a numeral is read back, digits, point and exponent as written;
* `stringBody?_stringToken`: so is a text, whatever characters are in it, and so is a
  token that denotes none.
-/
import Mathlib
import RobotCombat.Json.Reader
import RobotCombat.Json.Writer
import RobotCombat.Proofs.Text.Words

namespace RobotCombat.Json

set_option autoImplicit false

open Number (isDigit digitValue? digitsValue)
open Text (span_append)

/-! ## Digits -/

theorem isDigit_iff {c : Char} : isDigit c = true ↔ 48 ≤ c.toNat ∧ c.toNat ≤ 57 := by
  have bounds : ('0' ≤ c ∧ c ≤ '9') ↔ 48 ≤ c.toNat ∧ c.toNat ≤ 57 := Iff.rfl
  unfold isDigit digitValue?
  split <;> simp_all

theorem isDigit_of_mem_digitChars {n : Nat} : ∀ c ∈ digitChars n, isDigit c = true := by
  intro c member
  have digit : c.isDigit = true := Nat.isDigit_of_mem_toDigits (by decide) (by decide) member
  simp only [Char.isDigit, Bool.and_eq_true, decide_eq_true_eq, ge_iff_le,
    UInt32.le_iff_toNat_le] at digit
  exact isDigit_iff.mpr digit

theorem digitValue?_of_isDigit {c : Char} (digit : isDigit c = true) :
    digitValue? c = some (c.toNat - '0'.toNat) := by
  unfold isDigit digitValue? at *
  split <;> simp_all

/-- A row of digits writes the number that the standard library reads from it. -/
theorem digitsValue_eq_ofDigitChars {digits : List Char} (all : ∀ c ∈ digits, isDigit c = true) :
    digitsValue digits = Nat.ofDigitChars 10 digits 0 := by
  rw [digitsValue, Nat.ofDigitChars_eq_foldl]
  refine List.foldl_ext _ _ _ fun n c member => ?_
  rw [digitValue?_of_isDigit (all c member), Option.getD_some]

theorem digitsValue_digitChars (n : Nat) : digitsValue (digitChars n) = n := by
  rw [digitsValue_eq_ofDigitChars isDigit_of_mem_digitChars]
  exact Nat.ofDigitChars_ten_toDigits

/-- A number is written by one digit at least, and without leading zeros. -/
theorem digitChars_eq_cons (n : Nat) :
    ∃ c rest, digitChars n = c :: rest ∧ isDigit c = true ∧ (∀ d ∈ rest, isDigit d = true) ∧
      (c = '0' → n = 0 ∧ rest = []) := by
  induction n using Nat.strongRecOn with
  | ind n ih =>
      by_cases small : n < 10
      · have short : digitChars n = [n.digitChar] := Nat.toDigits_of_lt_base small
        have digit : isDigit n.digitChar = true :=
          isDigit_of_mem_digitChars (n := n) _ (by simp [short])
        exact ⟨n.digitChar, [], short, digit, by simp, by simp⟩
      · -- the last digit goes to the end, so the first one is that of a tenth
        obtain ⟨c, rest, shorter, first, later, zero⟩ := ih (n / 10) (by omega)
        have longer : digitChars n = c :: (rest ++ [(n % 10).digitChar]) := by
          have split : digitChars n = digitChars (n / 10) ++ [(n % 10).digitChar] :=
            Nat.toDigits_of_base_le (by decide) (by omega)
          rw [split, shorter, List.cons_append]
        refine ⟨c, rest ++ [(n % 10).digitChar], longer, first, ?_, ?_⟩
        · exact fun d member => isDigit_of_mem_digitChars d (longer ▸ List.mem_cons_of_mem c member)
        · intro leading
          have := (zero leading).1
          omega

/-! ## Numbers -/

/-- Whether a number that stands before a text is over there. -/
def EndsNumber (rest : List Char) : Prop :=
  ∀ c ∈ rest.head?, isDigit c = false ∧ c ≠ '.' ∧ c ≠ 'e' ∧ c ≠ 'E'

/-- The exponent of a number as text. -/
def exponentChars : Option Int → List Char
  | none => []
  | some e => 'e' :: ((if e < 0 then ['-'] else []) ++ digitChars e.natAbs)

theorem Numeral.chars_eq (n : Numeral) :
    n.chars = (if n.negative then ['-'] else []) ++
      (digitChars n.whole ++ (fractionChars n.fraction ++ exponentChars n.exponent)) := by
  simp only [Numeral.chars, List.append_assoc]
  cases n.exponent <;> rfl

theorem wholePart?_digitChars (n : Nat) {rest : List Char}
    (ends : ∀ c ∈ rest.head?, isDigit c = false) :
    wholePart? (digitChars n ++ rest) = some (n, rest) := by
  obtain ⟨c, digits, written, first, later, zero⟩ := digitChars_eq_cons n
  have value := digitsValue_digitChars n
  rw [written] at value
  rw [written, List.cons_append, wholePart?.eq_def]
  by_cases leading : c = '0'
  · obtain ⟨rfl, rfl⟩ := zero leading
    cases rest with
    | nil => simp [leading]
    | cons d rest => simp [leading, ends d rfl]
  · obtain ⟨taken, dropped⟩ := span_append later ends
    simp [leading, first, taken, dropped, value]

theorem digitValue?_digit {d : Nat} (small : d < 10) :
    digitValue? (Char.ofNat ('0'.toNat + d)) = some d := by
  have each : ∀ d < 10, digitValue? (Char.ofNat ('0'.toNat + d)) = some d := by decide
  exact each d small

section Fraction

variable {digits : List Nat}

theorem isDigit_of_mem_fraction (small : ∀ d ∈ digits, d < 10) :
    ∀ c ∈ digits.map (fun d => Char.ofNat ('0'.toNat + d)), isDigit c = true := by
  rw [List.forall_mem_map]
  intro d member
  rw [isDigit, digitValue?_digit (small d member), Option.isSome_some]

theorem filterMap_fraction (small : ∀ d ∈ digits, d < 10) :
    (digits.map fun d => Char.ofNat ('0'.toNat + d)).filterMap digitValue? = digits := by
  have each : ∀ d ∈ digits, (digitValue? ∘ fun d => Char.ofNat ('0'.toNat + d)) d = some d :=
    fun d member => digitValue?_digit (small d member)
  rw [List.filterMap_map, List.filterMap_congr each, List.filterMap_some]

theorem fractionDigits?_fractionChars {rest : List Char} (small : ∀ d ∈ digits, d < 10)
    (ends : ∀ c ∈ rest.head?, isDigit c = false ∧ c ≠ '.') :
    fractionDigits? (fractionChars digits ++ rest) = some (digits, rest) := by
  cases digits with
  | nil =>
      cases rest with
      | nil => rfl
      | cons c rest =>
          have ended : c ≠ '.' := (ends c rfl).2
          rw [fractionChars, List.nil_append, fractionDigits?]
          intro _ point
          exact ended (List.cons.inj point).1
  | cons d digits =>
      obtain ⟨taken, dropped⟩ :=
        span_append (isDigit_of_mem_fraction small) fun c first => (ends c first).1
      rw [fractionChars, List.cons_append, fractionDigits?, taken, dropped,
        filterMap_fraction small]
      · rfl
      · intro empty
        cases empty

end Fraction

theorem splitSign_digitChars (n : Nat) (rest : List Char) :
    Number.splitSign (digitChars n ++ rest) = (false, digitChars n ++ rest) := by
  obtain ⟨c, digits, written, first, -⟩ := digitChars_eq_cons n
  rw [written, List.cons_append, Number.splitSign]
  all_goals
    intro _ sign
    rw [(List.cons.inj sign).1] at first
    contradiction

theorem splitSign_exponent (e : Int) (rest : List Char) :
    Number.splitSign ((if e < 0 then ['-'] else []) ++ (digitChars e.natAbs ++ rest)) =
      (decide (e < 0), digitChars e.natAbs ++ rest) := by
  by_cases negative : e < 0
  · simp [negative, Number.splitSign]
  · simp [negative, splitSign_digitChars]

theorem exponentDigits?_exponentChars {exponent : Option Int} {rest : List Char}
    (ends : ∀ c ∈ rest.head?, isDigit c = false ∧ c ≠ 'e' ∧ c ≠ 'E') :
    exponentDigits? (exponentChars exponent ++ rest) = some (exponent, rest) := by
  cases exponent with
  | none =>
      cases rest with
      | nil => rfl
      | cons c rest =>
          have ended := ends c rfl
          simp [exponentChars, exponentDigits?, ended]
  | some e =>
      obtain ⟨taken, dropped⟩ :=
        span_append (@isDigit_of_mem_digitChars e.natAbs) fun c first => (ends c first).1
      have written : digitChars e.natAbs ≠ [] := Nat.toDigits_ne_nil
      simp only [exponentChars, List.cons_append, List.append_assoc, exponentDigits?, true_or,
        if_true, splitSign_exponent, taken, dropped, digitsValue_digitChars, List.isEmpty_iff,
        written, if_false]
      congr 3
      by_cases negative : e < 0
      · rw [if_pos (decide_eq_true negative)]
        omega
      · rw [if_neg (by simpa using negative)]
        omega

/-- What follows the whole part of a number does not go on with it. -/
theorem head?_fraction {digits : List Nat} {exponent : Option Int} {rest : List Char}
    (ends : EndsNumber rest) :
    ∀ c ∈ (fractionChars digits ++ (exponentChars exponent ++ rest)).head?, isDigit c = false := by
  intro c first
  cases digits with
  | cons d digits => cases first; rfl
  | nil =>
      cases exponent with
      | some e => cases first; rfl
      | none => exact (ends c first).1

/-- What follows the digits after the point of a number does not go on with them. -/
theorem head?_exponent {exponent : Option Int} {rest : List Char} (ends : EndsNumber rest) :
    ∀ c ∈ (exponentChars exponent ++ rest).head?, isDigit c = false ∧ c ≠ '.' := by
  intro c first
  cases exponent with
  | some e => cases first; decide
  | none => exact ⟨(ends c first).1, (ends c first).2.1⟩

theorem magnitudeNumeral?_chars (negative : Bool) {n : Numeral} {rest : List Char}
    (small : ∀ d ∈ n.fraction, d < 10) (ends : EndsNumber rest) :
    magnitudeNumeral? negative (digitChars n.whole ++
        (fractionChars n.fraction ++ (exponentChars n.exponent ++ rest))) =
      some ({ n with negative }, rest) := by
  have exponent : ∀ c ∈ rest.head?, isDigit c = false ∧ c ≠ 'e' ∧ c ≠ 'E' :=
    fun c first => ⟨(ends c first).1, (ends c first).2.2⟩
  simp [magnitudeNumeral?, wholePart?_digitChars _ (head?_fraction ends),
    fractionDigits?_fractionChars small (head?_exponent ends),
    exponentDigits?_exponentChars exponent]

/-- A numeral is read back from its text. -/
theorem numeral?_chars {n : Numeral} {rest : List Char} (small : ∀ d ∈ n.fraction, d < 10)
    (ends : EndsNumber rest) : numeral? (n.chars ++ rest) = some (n, rest) := by
  obtain ⟨negative, whole, fraction, exponent⟩ := n
  have magnitude := magnitudeNumeral?_chars negative small ends
  obtain ⟨c, digits, written, first, -⟩ := digitChars_eq_cons whole
  simp only [Numeral.chars_eq, List.append_assoc]
  cases negative with
  | true => exact magnitude
  | false =>
      simp only [written, List.cons_append] at magnitude ⊢
      rw [if_neg (by decide), List.nil_append, numeral?, magnitude]
      intro _ sign
      rw [(List.cons.inj sign).1] at first
      contradiction

/-- A number starts with a minus or a digit. -/
theorem Numeral.chars_eq_cons (n : Numeral) :
    ∃ c rest, n.chars = c :: rest ∧ 45 ≤ c.toNat ∧ c.toNat ≤ 57 := by
  obtain ⟨c, digits, written, first, -⟩ := digitChars_eq_cons n.whole
  rw [isDigit_iff] at first
  rw [chars_eq, written]
  cases n.negative with
  | true => exact ⟨'-', _, rfl, by decide⟩
  | false => exact ⟨c, _, rfl, by omega⟩

/-! ## Strings -/

theorem hexValue?_hexDigit {n : Nat} (small : n < 16) : hexValue? (hexDigit n) = some n := by
  have each : ∀ n < 16, hexValue? (hexDigit n) = some n := by decide
  exact each n small

theorem lt_space_iff {c : Char} : c < ' ' ↔ c.toNat < 32 := Iff.rfl

/-- Whether a character is written as a code unit. -/
def IsCoded (c : Char) : Prop :=
  c < ' ' ∧ c ∉ ['\x08', '\x0c', '\n', '\r', '\t']

instance (c : Char) : Decidable (IsCoded c) := inferInstanceAs (Decidable (_ ∧ _))

/-- The piece that a character is read as. -/
def piece (c : Char) : Piece :=
  if IsCoded c then .unit c.toNat else .char c

theorem codeUnit?_control {c : Char} (control : c < ' ') :
    codeUnit? '0' '0' (hexDigit (c.toNat / 16)) (hexDigit (c.toNat % 16)) = some c.toNat := by
  rw [lt_space_iff] at control
  have zero : hexValue? '0' = some 0 := rfl
  have high := hexValue?_hexDigit (n := c.toNat / 16) (by omega)
  have low := hexValue?_hexDigit (n := c.toNat % 16) (by omega)
  simp only [codeUnit?, zero, high, low, Option.bind_eq_bind, Option.bind_some, Option.pure_def,
    Option.some.injEq]
  omega

/-- A short escape is read as its character. -/
theorem pieces?_shortEscape {e c : Char} (short : shortEscape? e = some c) (text : List Char) :
    pieces? ('\\' :: e :: text) =
      (pieces? text).map fun (pieces, rest) => (.char c :: pieces, rest) := by
  have other : e ≠ 'u' := by
    rintro rfl
    cases short
  rw [pieces?]
  · rw [short]
    cases pieces? text <;> rfl
  · intro _ _ _ _ _ same _
    exact other same

/-- A code unit is read as a number. -/
theorem pieces?_codeUnit {a b c d : Char} {n : Nat} (coded : codeUnit? a b c d = some n)
    (text : List Char) :
    pieces? ('\\' :: 'u' :: a :: b :: c :: d :: text) =
      (pieces? text).map fun (pieces, rest) => (.unit n :: pieces, rest) := by
  rw [pieces?, coded]
  cases pieces? text <;> rfl

/-- Every other character is read as itself. -/
theorem pieces?_plain {c : Char} (quote : c ≠ '"') (backslash : c ≠ '\\') (printed : ¬c < ' ')
    (text : List Char) :
    pieces? (c :: text) = (pieces? text).map fun (pieces, rest) => (.char c :: pieces, rest) := by
  rw [pieces?, if_neg printed]
  · cases pieces? text <;> rfl
  · exact quote
  · intro _ _ _ _ _ start _
    exact backslash start
  · intro _ _ start _
    exact backslash start

/-- A character is read back from its escape as one piece. -/
theorem pieces?_escape (c : Char) (text : List Char) :
    pieces? (escape c ++ text) =
      (pieces? text).map fun (pieces, rest) => (piece c :: pieces, rest) := by
  have short (e : Char) (known : shortEscape? e = some c) (plain : ¬IsCoded c) :
      pieces? ('\\' :: e :: text) =
        (pieces? text).map fun (pieces, rest) => (piece c :: pieces, rest) := by
    rw [piece, if_neg plain]
    exact pieces?_shortEscape known text
  -- seven characters have a short escape; of the others the control characters are coded
  unfold escape
  split
  · subst c
    exact short '"' rfl (by decide)
  split
  · subst c
    exact short '\\' rfl (by decide)
  split
  · subst c
    exact short 'b' rfl (by decide)
  split
  · subst c
    exact short 'f' rfl (by decide)
  split
  · subst c
    exact short 'n' rfl (by decide)
  split
  · subst c
    exact short 'r' rfl (by decide)
  split
  · subst c
    exact short 't' rfl (by decide)
  rename_i quote backslash _ _ _ _ _
  split
  · rename_i control
    have coded : IsCoded c := ⟨control, by simp [*]⟩
    rw [piece, if_pos coded]
    exact pieces?_codeUnit (codeUnit?_control control) text
  · rename_i printed
    rw [piece, if_neg fun coded => printed coded.1]
    exact pieces?_plain quote backslash printed text

theorem pieces?_escaped (characters rest : List Char) :
    pieces? (characters.flatMap escape ++ '"' :: rest) = some (characters.map piece, rest) := by
  induction characters with
  | nil => rfl
  | cons c characters ih =>
      rw [List.flatMap_cons, List.append_assoc, pieces?_escape, ih]
      rfl

/-- A code unit that is not half of a pair denotes its character. -/
theorem denote?_unit {n : Nat} (low : n < 0xD800) (rest : List Piece) :
    denote? (.unit n :: rest) = (denote? rest).map (Char.ofNat n :: ·) := by
  have notHigh : isHighHalf n = false := by simp [isHighHalf]; omega
  have notLow : isLowHalf n = false := by simp [isLowHalf]; omega
  cases rest with
  | nil => simp [denote?, notHigh, notLow]
  | cons first rest => cases first <;> simp [denote?, notHigh, notLow]

theorem denote?_piece (c : Char) (rest : List Piece) :
    denote? (piece c :: rest) = (denote? rest).map (c :: ·) := by
  unfold piece
  split
  · rename_i coded
    have control : c.toNat < 32 := lt_space_iff.mp coded.1
    rw [denote?_unit (by omega), Char.ofNat_toNat]
  · rw [denote?]

theorem denote?_pieces (characters : List Char) :
    denote? (characters.map piece) = some characters := by
  induction characters with
  | nil => rfl
  | cons c characters ih =>
      rw [List.map_cons, denote?_piece, ih]
      rfl

/-- A string token is read back, whether it denotes a text or none. -/
theorem stringBody?_stringToken (s : Option String) (rest : List Char) :
    ∃ body, stringToken s = '"' :: body ∧ stringBody? (body ++ rest) = some (s, rest) := by
  cases s with
  | none => exact ⟨_, rfl, rfl⟩
  | some s =>
      refine ⟨s.toList.flatMap escape ++ ['"'], rfl, ?_⟩
      rw [List.append_assoc, List.singleton_append, stringBody?, pieces?_escaped]
      simp [denote?_pieces]

end RobotCombat.Json
