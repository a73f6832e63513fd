/-
# RobotCombat.Proofs.Number.Endings — how a number ends

A text that is read as a number ends in a digit or a point: `last_of_readSingle?`, from the
exponent (`last_of_exponentPart?`) and the digits before it (`last_of_unsignedNumeral?`).
-/
import RobotCombat.Number.Literal
import RobotCombat.Proofs.Text.Words

set_option autoImplicit false

namespace RobotCombat.Number

theorem splitSign_suffix (text : List Char) : (splitSign text).2 <:+ text := by
  unfold splitSign
  split
  · exact List.suffix_cons _ _
  · exact List.suffix_cons _ _
  · exact List.suffix_rfl

/-- An exponent ends in a digit. -/
theorem last_of_exponentPart? {text : List Char} {e : Int} (read : exponentPart? text = some e) :
    text = [] ∨ ∃ c ∈ text.getLast?, isDigit c = true := by
  cases text with
  | nil => exact .inl rfl
  | cons mark rest =>
      right
      have suffix := splitSign_suffix rest
      unfold exponentPart? at read
      rcases signed : splitSign rest with ⟨negative, unsigned⟩
      rw [signed] at suffix
      simp only [signed] at read
      obtain ⟨before, rfl⟩ := suffix
      split at read
      · split at read
        · cases read
        · rename_i digits
          simp only [Bool.or_eq_true, Bool.not_eq_true', not_or, Bool.not_eq_true,
            List.isEmpty_eq_false_iff, Bool.not_eq_false, List.all_eq_true] at digits
          refine ⟨unsigned.getLast digits.1, ?_, digits.2 _ (List.getLast_mem digits.1)⟩
          rw [← List.cons_append, List.getLast?_append, List.getLast?_eq_some_getLast digits.1]
          rfl
      · cases read

/-- The text after the whole digits is a point with more of them and what is left, or what is
left at once. -/
theorem fractionPart_parts (text : List Char) :
    (fractionPart text = ([], text)) ∨
      ((∀ c ∈ (fractionPart text).1, isDigit c = true) ∧
        text = '.' :: ((fractionPart text).1 ++ (fractionPart text).2)) := by
  unfold fractionPart
  split
  · exact .inr ⟨Text.mem_takeWhile, by rw [List.takeWhile_append_dropWhile]⟩
  · exact .inl rfl

/-- A numeral ends in a digit or a point. -/
theorem last_of_unsignedNumeral? {text : List Char} {numeral : Nat × Int}
    (read : unsignedNumeral? text = some numeral) :
    ∃ c ∈ text.getLast?, isDigit c = true ∨ c = '.' := by
  have parts : text.takeWhile isDigit ++ text.dropWhile isDigit = text :=
    List.takeWhile_append_dropWhile
  have digits : ∀ c ∈ text.takeWhile isDigit, isDigit c = true := Text.mem_takeWhile
  unfold unsignedNumeral? at read
  dsimp only at read
  generalize text.takeWhile isDigit = whole at read parts digits
  generalize text.dropWhile isDigit = after at read parts
  have fraction := fractionPart_parts after
  generalize fractionPart after = split at read fraction
  obtain ⟨fractional, rest⟩ := split
  split at read
  · cases read
  rename_i written
  obtain ⟨e, exponent, -⟩ := Option.map_eq_some_iff.mp read
  have last_of : ∀ before digits' : List Char, text = before ++ digits' → digits' ≠ [] →
      (∀ c ∈ digits', isDigit c = true) → ∃ c ∈ text.getLast?, isDigit c = true ∨ c = '.' := by
    rintro before digits' rfl some all
    refine ⟨digits'.getLast some, ?_, .inl (all _ (List.getLast_mem some))⟩
    rw [List.getLast?_append, List.getLast?_eq_some_getLast some]
    rfl
  have goes : ∃ before, text = before ++ rest := by
    rcases fraction with same | ⟨-, same⟩
    · obtain ⟨-, rfl⟩ := Prod.mk.inj same
      exact ⟨whole, parts.symm⟩
    · exact ⟨whole ++ '.' :: fractional, by rw [← parts, same]; simp⟩
  rcases last_of_exponentPart? exponent with rfl | ⟨c, last, digit⟩
  · rcases fraction with same | ⟨all, same⟩
    · obtain ⟨rfl, rfl⟩ := Prod.mk.inj same
      have some : whole ≠ [] := by simpa using written
      exact last_of [] whole (by simp [← parts]) some digits
    · cases fractional with
      | nil => exact ⟨'.', by rw [← parts, same]; simp, .inr rfl⟩
      | cons d fractional =>
          exact last_of (whole ++ ['.']) (d :: fractional) (by rw [← parts, same]; simp) (by simp)
            all
  · obtain ⟨before, rfl⟩ := goes
    refine ⟨c, ?_, .inl digit⟩
    rw [List.getLast?_append, Option.mem_def.mp last]
    rfl

theorem last_of_readSingle? {text : List Char} {x : Float32} (read : readSingle? text = some x) :
    ∀ c ∈ text.getLast?, isDigit c = true ∨ c = '.' := by
  unfold readSingle? at read
  dsimp only at read
  split at read
  · cases read
  · rename_i digits e unsigned
    obtain ⟨c, last, ends⟩ := last_of_unsignedNumeral? unsigned
    obtain ⟨before, whole⟩ := splitSign_suffix text
    intro d last'
    rw [← whole, List.getLast?_append, Option.mem_def.mp last] at last'
    obtain rfl := Option.some.inj last'
    exact ends

end RobotCombat.Number
