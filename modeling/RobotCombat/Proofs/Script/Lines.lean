/-
# RobotCombat.Proofs.Script.Lines — a script is read line by line

What a line comes to depends on its text alone; only its number depends on its
place. So a script of two parts comes to what the parts come to, the second with
its numbers moved on (`parse_joined`), and the entries under one number are those of
one line (`entries_at`).

* `parse_follows_grammar`: the rules and mistakes under the number of a statement are
  what the grammar says of it.
-/
import RobotCombat.Proofs.Script.Statements
import RobotCombat.Proofs.Text.Pieces

namespace RobotCombat.Script

set_option autoImplicit false

open Text

/-! ## Numbers of lines -/

/-- A rule that many lines further down. -/
def Rule.movedBy (lines : Nat) : Rule → Rule
  | .whenever clauses action line => .whenever clauses action (line + lines)
  | .always action line => .always action (line + lines)

/-- A mistake that many lines further down. -/
def Mistake.movedBy (lines : Nat) (m : Mistake) : Mistake := ⟨m.line + lines, m.problem⟩

/-- What a line comes to that many lines further down. -/
def LineResult.movedBy (lines : Nat) : LineResult → LineResult
  | .silent => .silent
  | .rule r => .rule (r.movedBy lines)
  | .mistake m => .mistake (m.movedBy lines)

theorem readDefault_movedBy (n lines : Nat) (rest : List Char) :
    readDefault (n + lines) rest = (readDefault n rest).map (Rule.movedBy lines) := by
  unfold readDefault
  dsimp only
  split
  · cases readAction (trim rest) <;> rfl
  · rfl

theorem readWhen_movedBy (n lines : Nat) (rest : List Char) :
    readWhen (n + lines) rest = (readWhen n rest).map (Rule.movedBy lines) := by
  unfold readWhen
  cases splitWhen? rest with
  | none => rfl
  | some parts =>
      dsimp only
      cases readAction parts.2 with
      | error e => rfl
      | ok a => cases readCondition parts.1 <;> rfl

theorem readStatement_movedBy (n lines : Nat) (text : List Char) :
    readStatement (n + lines) text = (readStatement n text).map (Rule.movedBy lines) := by
  unfold readStatement
  cases dropKeyword? "DEFAULT".toList text with
  | some rest => exact readDefault_movedBy n lines rest
  | none =>
      cases dropKeyword? "WHEN".toList text with
      | some rest => exact readWhen_movedBy n lines rest
      | none => rfl

/-- A line comes to the same wherever it stands, but for the number. -/
theorem readLine_movedBy (n lines : Nat) (text : List Char) :
    readLine (n + lines) text = (readLine n text).movedBy lines := by
  unfold readLine
  dsimp only
  split
  · rfl
  · rw [readStatement_movedBy]
    cases readStatement n (trim text) <;> rfl

theorem readLines_movedBy (lines : Nat) :
    ∀ (n : Nat) (texts : List (List Char)),
      readLines (n + lines) texts = (readLines n texts).map (LineResult.movedBy lines)
  | _, [] => rfl
  | n, text :: texts => by
      have later := readLines_movedBy lines (n + 1) texts
      rw [Nat.add_right_comm] at later
      simp [readLines, readLine_movedBy, later]

theorem readLines_append :
    ∀ (n : Nat) (texts texts' : List (List Char)),
      readLines n (texts ++ texts') = readLines n texts ++ readLines (n + texts.length) texts'
  | _, [], _ => by simp [readLines]
  | n, text :: texts, texts' => by
      have later := readLines_append (n + 1) texts texts'
      simp [readLines, later, Nat.add_assoc, Nat.add_comm 1]

/-! ## Two scripts as one -/

/-- The script that holds one script and, from the next line on, another. -/
def joined (first second : String) : String := first ++ "\n" ++ second

theorem lines_joined (first second : String) :
    lines (joined first second).toList = lines first.toList ++ lines second.toList := by
  unfold joined lines
  rw [String.toList_append, String.toList_append, List.append_assoc]
  exact splitAt_append '\n' second.toList first.toList

theorem rule?_movedBy (lines : Nat) (result : LineResult) :
    (result.movedBy lines).rule? = result.rule?.map (Rule.movedBy lines) := by
  cases result <;> rfl

theorem mistake?_movedBy (lines : Nat) (result : LineResult) :
    (result.movedBy lines).mistake? = result.mistake?.map (Mistake.movedBy lines) := by
  cases result <;> rfl

/-- The rules of a script in two parts are those of the first and then those of the
second, as many lines further down as the first has. -/
theorem parse_joined (first second : String) :
    (parse (joined first second)).program.rules =
        (parse first).program.rules ++
          (parse second).program.rules.map (Rule.movedBy (lines first.toList).length) ∧
      (parse (joined first second)).mistakes =
        (parse first).mistakes ++
          (parse second).mistakes.map (Mistake.movedBy (lines first.toList).length) := by
  unfold parse
  simp [lines_joined, readLines_append, readLines_movedBy, List.filterMap_append,
    List.filterMap_map, List.map_filterMap, rule?_movedBy, mistake?_movedBy]

/-! ## Entries by number -/

theorem isSilent_iff {line : List Char} : isSilent line = true ↔ SilentLine line := by
  simp [isSilent, SilentLine, startsWith, or_assoc]

/-- What a line comes to that is no comment and not empty. -/
theorem readLine_of_statement {n : Nat} {text line : List Char} (trims : Trims text line)
    (statement : ¬ SilentLine line) :
    readLine n text =
      match readStatement n line with
      | .ok r => .rule r
      | .error problem => .mistake ⟨n, problem⟩ := by
  rw [← isSilent_iff] at statement
  unfold readLine
  simp only [trims.trim_eq]
  refine (if_neg statement).trans ?_
  cases readStatement n line <;> rfl

/-- A rule has the number of its line. -/
theorem line_of_rule? {n : Nat} {text : List Char} {r : Rule}
    (read : (readLine n text).rule? = some r) : r.line = n := by
  unfold readLine at read
  dsimp only at read
  split at read
  · cases read
  · cases statement : readStatement n (trim text) with
    | error problem => simp [statement, LineResult.rule?] at read
    | ok rule =>
        simp only [statement, LineResult.rule?, Option.some.injEq] at read
        obtain rfl := read
        cases (readStatement_eq_ok_iff (trims_trim text).trimmed).mp statement <;> rfl

/-- A mistake has the number of its line. -/
theorem line_of_mistake? {n : Nat} {text : List Char} {m : Mistake}
    (read : (readLine n text).mistake? = some m) : m.line = n := by
  unfold readLine at read
  dsimp only at read
  split at read
  · cases read
  · cases statement : readStatement n (trim text) with
    | ok rule => simp [statement, LineResult.mistake?] at read
    | error problem =>
        simp only [statement, LineResult.mistake?, Option.some.injEq] at read
        obtain rfl := read
        rfl

section Entries

variable {β : Type} {pick : LineResult → Option β} (line : β → Nat)

theorem le_line_of_mem (numbered : ∀ {n text x}, pick (readLine n text) = some x → line x = n)
    {n : Nat} {texts : List (List Char)} {x : β}
    (member : x ∈ (readLines n texts).filterMap pick) : n ≤ line x := by
  induction texts generalizing n with
  | nil => simp [readLines] at member
  | cons text texts ih =>
      simp only [readLines, List.mem_filterMap, List.mem_cons] at member
      obtain ⟨result, rfl | later, read⟩ := member
      · exact Nat.le_of_eq (numbered read).symm
      · exact Nat.le_of_succ_le (ih (List.mem_filterMap.mpr ⟨result, later, read⟩))

/-- The entries under one number are those of one line. -/
theorem entries_at (numbered : ∀ {n text x}, pick (readLine n text) = some x → line x = n)
    (texts : List (List Char)) (n i : Nat) :
    ((readLines n texts).filterMap pick).filter (fun x => line x = n + i) =
      (texts[i]?.bind fun text => pick (readLine (n + i) text)).toList := by
  induction texts generalizing n i with
  | nil => simp [readLines]
  | cons text texts ih =>
      cases i with
      | zero =>
          have others : ((readLines (n + 1) texts).filterMap pick).filter
              (fun x => line x = n) = [] := by
            rw [List.filter_eq_nil_iff]
            intro x member
            have above := le_line_of_mem line numbered member
            simp
            omega
          cases read : pick (readLine n text) with
          | none => simp [readLines, read, others]
          | some x => simp [readLines, read, others, numbered read]
      | succ i =>
          have later := ih (n + 1) i
          rw [Nat.succ_add_eq_add_succ] at later
          cases read : pick (readLine n text) with
          | none => simpa [readLines, read] using later
          | some x => simpa [readLines, read, numbered read] using later

end Entries

/-- The rules and the mistakes of a script under the number of a line are what that
line comes to. -/
theorem parse_at {source : String} {i : Nat} {text : List Char}
    (there : (lines source.toList)[i]? = some text) :
    (parse source).program.rules.filter (fun r => r.line = i + 1) =
        (readLine (i + 1) text).rule?.toList ∧
      (parse source).mistakes.filter (fun m => m.line = i + 1) =
        (readLine (i + 1) text).mistake?.toList := by
  have rules := entries_at Rule.line line_of_rule? (lines source.toList) 1 i
  have mistakes := entries_at Mistake.line line_of_mistake? (lines source.toList) 1 i
  rw [Nat.add_comm 1 i, there] at rules mistakes
  exact ⟨rules, mistakes⟩

/-- A statement is a rule exactly if it is one of the two kinds of line: then the rule
with its clauses in order, its action and its number is all that comes from it, and
otherwise one mistake with its number is. -/
theorem parse_follows_grammar {source : String} {i : Nat} {text line : List Char}
    (there : (lines source.toList)[i]? = some text) (trims : Trims text line)
    (statement : ¬ SilentLine line) :
    let n := i + 1
    let rules := (parse source).program.rules.filter fun r => r.line = n
    let mistakes := (parse source).mistakes.filter fun m => m.line = n
    (∀ a, rules = [.always a n] ↔ DefaultLine line a) ∧
    (∀ clauses a, rules = [.whenever clauses a n] ↔ WhenLine line clauses a) ∧
    ((∃ r, SaysRule n line r) → mistakes = []) ∧
    ((¬ ∃ r, SaysRule n line r) → rules = [] ∧ ∃ problem, mistakes = [⟨n, problem⟩]) := by
  intro n rules mistakes
  obtain ⟨rules_eq, mistakes_eq⟩ := parse_at there
  change rules = _ at rules_eq
  change mistakes = _ at mistakes_eq
  rw [readLine_of_statement trims statement] at rules_eq mistakes_eq
  have said : ∀ r, readStatement n line = .ok r ↔ SaysRule n line r :=
    fun r => readStatement_eq_ok_iff trims.trimmed
  simp only [← saysRule_always_iff (n := n), ← saysRule_whenever_iff (n := n), ← said]
  cases read : readStatement n line with
  | ok r =>
      have one : rules = [r] := by simpa [n, read, LineResult.rule?] using rules_eq
      have none : mistakes = [] := by simpa [n, read, LineResult.mistake?] using mistakes_eq
      simp [one, none]
  | error problem =>
      have none : rules = [] := by simpa [n, read, LineResult.rule?] using rules_eq
      have one : mistakes = [⟨n, problem⟩] := by
        simpa [n, read, LineResult.mistake?] using mistakes_eq
      simp [one, none]

/-- A line with letters in any case, a comparison without blanks around it and a wide
blank. -/
def ramLine : List Char := "When my_hp<a  AND i_am_faster\u3000do RAM".toList

/-- What it asks for: an unknown text that no number is below, and an advantage. -/
def ramClauses : List Clause := [⟨.myHp, .less, .ofText ['a']⟩, .isTrue .iAmFaster]

theorem readStatement_ramLine :
    readStatement 2 ramLine = .ok (.whenever ramClauses .ram 2) := by
  decide +kernel

/-- It is read as the second line of a script. -/
theorem parse_follows_grammar_ramLine :
    let source := "# notes\n When my_hp<a  AND i_am_faster\u3000do RAM\r\nDEFAULT dance"
    let text := " When my_hp<a  AND i_am_faster\u3000do RAM\r".toList
    (lines source.toList)[1]? = some text ∧ Trims text ramLine ∧ ¬ SilentLine ramLine ∧
      (parse source).program.rules.filter (fun r => r.line = 2) =
        [.whenever ramClauses .ram 2] := by
  intro source text
  have there : (lines source.toList)[1]? = some text := by decide
  have trims : Trims text ramLine := trim_eq_iff.mp (by decide)
  have statement : ¬ SilentLine ramLine := by
    rw [← isSilent_iff]
    decide
  have said := (readStatement_eq_ok_iff trims.trimmed).mp readStatement_ramLine
  have reads := (parse_follows_grammar there trims statement).2.1 ramClauses .ram
  exact ⟨there, trims, statement, reads.mpr (saysRule_whenever_iff.mp said)⟩

end RobotCombat.Script
