/-
# RobotCombat.Proofs.Script.Numbering — every line of a script is accounted for

A line says nothing, or it comes to one rule or one mistake under its own number
(`readLine_cases`). So the numbers of rules and mistakes are those of the lines that
say something, each once (`numbers_perm`), in the order of the lines
(`entries_increase`). What ends a line is a newline; a carriage return in front of it
belongs to the blanks around the line (`parse_withReturns`).

* `parse_is_line_local`: a script comes to what its lines come to one by one, whatever
  stands around them.
-/
import RobotCombat.Proofs.Script.Lines

namespace RobotCombat.Script

set_option autoImplicit false

open Text

/-! ## The lines of a text -/

/-- A text is its lines with newlines between them. -/
theorem intercalate_lines (text : List Char) : ['\n'].intercalate (lines text) = text := by
  unfold lines
  rw [splitAt_eq_splitOn]
  exact List.intercalate_splitOn '\n'

/-- No newline stands in a line. -/
theorem newline_not_mem {text line : List Char} (member : line ∈ lines text) : '\n' ∉ line := by
  unfold lines at member
  induction text generalizing line with
  | nil =>
      obtain rfl := List.mem_singleton.mp member
      exact List.not_mem_nil
  | cons c text ih =>
      obtain ⟨piece, pieces, whole⟩ := List.exists_cons_of_ne_nil (splitAt_ne_nil '\n' text)
      by_cases ends : c = '\n'
      · simp only [splitAt, ends, if_true, List.mem_cons] at member
        rcases member with rfl | later
        · exact List.not_mem_nil
        · exact ih later
      · simp only [splitAt, ends, if_false, whole, List.mem_cons] at member ih
        rcases member with rfl | later
        · simp [Ne.symm ends, ih (.inl rfl)]
        · exact ih (.inr later)

/-- A text has one line more than it has newlines. -/
theorem length_lines (text : List Char) : (lines text).length = text.count '\n' + 1 := by
  unfold lines
  induction text with
  | nil => rfl
  | cons c text ih =>
      by_cases ends : c = '\n'
      · simp [splitAt, ends, ih]
      · obtain ⟨piece, pieces, whole⟩ := List.exists_cons_of_ne_nil (splitAt_ne_nil '\n' text)
        rw [whole] at ih
        rw [List.count_cons_of_ne ends, ← ih]
        simp [splitAt, ends, whole]

/-! ## Numbers of lines -/

instance : DecidablePred SilentLine := fun _ => decidable_of_iff _ isSilent_iff

/-- The numbers of the lines that say something, the first line having a given
number. -/
def statementNumbers (line : Nat) : List (List Char) → List Nat
  | [] => []
  | text :: texts =>
    if SilentLine (trim text) then statementNumbers (line + 1) texts
    else line :: statementNumbers (line + 1) texts

/-- What a line comes to: nothing if it is empty or a comment, and otherwise a rule or a
mistake under its number. -/
theorem readLine_cases (n : Nat) (text : List Char) :
    (SilentLine (trim text) ∧ readLine n text = .silent) ∨
      (¬ SilentLine (trim text) ∧
        ((∃ r, r.line = n ∧ readLine n text = .rule r) ∨
          ∃ m, m.line = n ∧ readLine n text = .mistake m)) := by
  by_cases silent : SilentLine (trim text)
  · refine .inl ⟨silent, ?_⟩
    unfold readLine
    exact if_pos (isSilent_iff.mpr silent)
  · refine .inr ⟨silent, ?_⟩
    have read := readLine_of_statement (n := n) (trims_trim text) silent
    cases statement : readStatement n (trim text) with
    | ok r =>
        rw [statement] at read
        have given : (readLine n text).rule? = some r := by
          rw [read]
          rfl
        exact .inl ⟨r, line_of_rule? given, read⟩
    | error problem =>
        rw [statement] at read
        exact .inr ⟨_, rfl, read⟩

/-- The numbers of rules and mistakes together are those of the lines that say
something. -/
theorem numbers_perm (n : Nat) (texts : List (List Char)) :
    (((readLines n texts).filterMap LineResult.rule?).map Rule.line ++
      ((readLines n texts).filterMap LineResult.mistake?).map Mistake.line).Perm
        (statementNumbers n texts) := by
  induction texts generalizing n with
  | nil => exact .nil
  | cons text texts ih =>
      rw [readLines, statementNumbers]
      rcases readLine_cases n text with ⟨silent, read⟩ | ⟨speaks, ⟨r, line, read⟩ | ⟨m, line, read⟩⟩
      · rw [if_pos silent, read]
        exact ih (n + 1)
      · rw [if_neg speaks, read, ← line]
        exact (ih (r.line + 1)).cons r.line
      · rw [if_neg speaks, read, ← line]
        exact List.perm_middle.trans ((ih (m.line + 1)).cons m.line)

section Entries

variable {β : Type} {pick : LineResult → Option β} (line : β → Nat)

/-- Entries stand in the order of their lines, and no two are of one line. -/
theorem entries_increase (numbered : ∀ {n text x}, pick (readLine n text) = some x → line x = n)
    (n : Nat) (texts : List (List Char)) :
    (((readLines n texts).filterMap pick).map line).Pairwise (· < ·) := by
  induction texts generalizing n with
  | nil => exact .nil
  | cons text texts ih =>
      rw [readLines]
      cases read : pick (readLine n text) with
      | none =>
          rw [List.filterMap_cons_none read]
          exact ih (n + 1)
      | some x =>
          rw [List.filterMap_cons_some read, List.map_cons, List.pairwise_cons]
          refine ⟨?_, ih (n + 1)⟩
          intro later member
          obtain ⟨y, listed, rfl⟩ := List.mem_map.mp member
          rw [numbered read]
          exact le_line_of_mem line numbered listed

end Entries

/-! ## Carriage returns -/

/-- The second text is the first with a carriage return in front of some of its
newlines. -/
inductive WithReturns : List Char → List Char → Prop
  | nil : WithReturns [] []
  | cons {text text' : List Char} (c : Char) (rest : WithReturns text text') :
      WithReturns (c :: text) (c :: text')
  | newline {text text' : List Char} (rest : WithReturns text text') :
      WithReturns ('\n' :: text) ('\r' :: '\n' :: text')

/-- The second line is the first, perhaps with a carriage return behind it. -/
def SameLine (line line' : List Char) : Prop := line' = line ∨ line' = line ++ ['\r']

theorem SameLine.trim_eq {line line' : List Char} (same : SameLine line line') :
    trim line' = trim line := by
  rcases same with rfl | rfl
  · rfl
  · -- the carriage return joins the blanks at the right
    obtain ⟨left, right, whole, leftBlank, rightBlank, trimmed⟩ := trims_trim line
    refine trim_eq_iff.mpr ⟨left, right ++ ['\r'], ?_, leftBlank, ?_, trimmed⟩
    · rw [← List.append_assoc, ← whole]
    · intro c member
      rcases List.mem_append.mp member with before | last
      · exact rightBlank c before
      · obtain rfl := List.mem_singleton.mp last
        decide

theorem WithReturns.lines {text text' : List Char} (more : WithReturns text text') :
    List.Forall₂ SameLine (lines text) (lines text') := by
  unfold Text.lines
  induction more with
  | nil => exact .cons (.inl rfl) .nil
  | @cons text text' c rest ih =>
      by_cases ends : c = '\n'
      · simp only [splitAt, ends, if_true]
        exact .cons (.inl rfl) ih
      · simp only [splitAt, ends, if_false]
        revert ih
        generalize splitAt '\n' text = pieces
        generalize splitAt '\n' text' = pieces'
        intro ih
        cases ih with
        | nil => exact .cons (.inl rfl) .nil
        | cons first later =>
            exact .cons (first.imp (congrArg (c :: ·)) (congrArg (c :: ·))) later
  | newline rest ih =>
      have other : '\r' ≠ '\n' := by decide
      simp only [splitAt, other, if_true, if_false]
      exact .cons (.inr rfl) ih

theorem readLines_congr {texts texts' : List (List Char)} (n : Nat)
    (same : List.Forall₂ SameLine texts texts') : readLines n texts' = readLines n texts := by
  induction same generalizing n with
  | nil => rfl
  | cons first later ih =>
      rw [readLines, readLines, ih]
      unfold readLine
      rw [first.trim_eq]

/-- Carriage returns in front of newlines change nothing. -/
theorem parse_withReturns {source source' : String}
    (more : WithReturns source.toList source'.toList) : parse source' = parse source := by
  unfold parse
  rw [readLines_congr 1 more.lines]

/-! ## Scripts -/

/-- A script is read line by line, and no line is lost. Two scripts in one come to what
they come to apart, the second moved on by the lines of the first. The lines are what stands
between newlines. Under the number of a line stands nothing if it is empty or a comment, and
otherwise either one rule or one mistake; so the numbers of rules and mistakes are those of
the lines that say something, and both lists are in the order of the lines. Carriage returns
in front of newlines change nothing. -/
theorem parse_is_line_local (first second : String) :
    ((parse (joined first second)).program.rules =
        (parse first).program.rules ++
          (parse second).program.rules.map (Rule.movedBy (1 + first.toList.count '\n')) ∧
      (parse (joined first second)).mistakes =
        (parse first).mistakes ++
          (parse second).mistakes.map (Mistake.movedBy (1 + first.toList.count '\n'))) ∧
    (['\n'].intercalate (lines first.toList) = first.toList ∧
      ∀ line ∈ lines first.toList, '\n' ∉ line) ∧
    (∀ i text, (lines first.toList)[i]? = some text →
      let rules := (parse first).program.rules.filter fun r => r.line = i + 1
      let mistakes := (parse first).mistakes.filter fun m => m.line = i + 1
      (SilentLine (trim text) → rules = [] ∧ mistakes = []) ∧
      (¬ SilentLine (trim text) →
        (∃ r, rules = [r] ∧ mistakes = []) ∨ ∃ m, rules = [] ∧ mistakes = [m])) ∧
    (let rules := (parse first).program.rules.map Rule.line
      let mistakes := (parse first).mistakes.map Mistake.line
      let numbers := statementNumbers 1 (lines first.toList)
      (rules ++ mistakes).Perm numbers ∧ rules.length + mistakes.length = numbers.length ∧
      rules.Pairwise (· < ·) ∧ mistakes.Pairwise (· < ·)) ∧
    (∀ source, WithReturns first.toList source.toList → parse source = parse first) := by
  have apart := parse_joined first second
  rw [length_lines, Nat.add_comm] at apart
  have perm := numbers_perm 1 (lines first.toList)
  have rules_increase := entries_increase Rule.line line_of_rule? 1 (lines first.toList)
  have mistakes_increase :=
    entries_increase Mistake.line line_of_mistake? 1 (lines first.toList)
  refine ⟨apart, ⟨intercalate_lines _, fun _ => newline_not_mem⟩, ?_,
    ⟨perm, ?_, rules_increase, mistakes_increase⟩, fun _ more => parse_withReturns more⟩
  · intro i text there
    obtain ⟨rules_eq, mistakes_eq⟩ := parse_at there
    dsimp only
    rw [rules_eq, mistakes_eq]
    rcases readLine_cases (i + 1) text with
      ⟨silent, read⟩ | ⟨speaks, ⟨r, -, read⟩ | ⟨m, -, read⟩⟩
    · rw [read]
      exact ⟨fun _ => ⟨rfl, rfl⟩, fun speaks => absurd silent speaks⟩
    · rw [read]
      exact ⟨fun silent => absurd silent speaks, fun _ => .inl ⟨r, rfl, rfl⟩⟩
    · rw [read]
      exact ⟨fun silent => absurd silent speaks, fun _ => .inr ⟨m, rfl, rfl⟩⟩
  · rw [← List.length_append]
    exact perm.length_eq

end RobotCombat.Script
