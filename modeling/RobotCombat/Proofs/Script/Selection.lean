/-
# RobotCombat.Proofs.Script.Selection — which rule of a script decides

A program is searched from its first rule on, so the rules of a second script count
only where no rule of the first holds. Neither the numbers of the lines nor the lines
that give no rule play a part.

* `select_eq_some_iff`, `select_eq_none_iff`: the rule that decides is the first that
  holds;
* `select_of_same_rules`: scripts with the same lines that give rules select alike;
* `select_joined`: what two scripts in one select;
* `act_starter`: what a fighter does with the script that it starts with.
-/
import RobotCombat.Proofs.Script.Lines
import RobotCombat.Script.Interpreter

namespace RobotCombat.Script

set_option autoImplicit false

open Text

/-! ## Rules -/

/-- What has to hold for a rule. -/
def Rule.clauses : Rule → List Clause
  | .whenever clauses _ _ => clauses
  | .always .. => []

theorem Rule.holds_iff {f : Facts} {r : Rule} :
    r.holds f = true ↔ ∀ c ∈ r.clauses, c.holds f = true := by
  cases r <;> simp [Rule.holds, Rule.clauses]

theorem Rule.holds_of_isDefault (f : Facts) {r : Rule} (default : r.isDefault = true) :
    r.holds f = true := by
  cases r with
  | whenever clauses a line => cases default
  | always a line => rfl

/-- The rule without the number of its line. -/
def Rule.unnumbered : Rule → Rule
  | .whenever clauses action _ => .whenever clauses action 0
  | .always action _ => .always action 0

@[simp] theorem Rule.holds_unnumbered (f : Facts) (r : Rule) :
    r.unnumbered.holds f = r.holds f := by
  cases r <;> rfl

@[simp] theorem Rule.action_unnumbered (r : Rule) : r.unnumbered.action = r.action := by
  cases r <;> rfl

@[simp] theorem Rule.unnumbered_movedBy (lines : Nat) (r : Rule) :
    (r.movedBy lines).unnumbered = r.unnumbered := by
  cases r <;> rfl

/-! ## The search for the first rule -/

/-- The selection in a program that has that many rules more in front. -/
def Selection.after (rules : Nat) (s : Selection) : Selection :=
  ⟨s.action, s.rule.map (· + rules)⟩

variable {f : Facts}

theorem selectFrom_add (f : Facts) (rules : List Rule) (place front : Nat) :
    selectFrom f (place + front) rules = (selectFrom f place rules).after front := by
  induction rules generalizing place with
  | nil => rfl
  | cons r rules ih =>
      by_cases holds : r.holds f = true
      · simp [selectFrom, holds, Selection.after]
      · simp [selectFrom, holds, ← ih, Nat.add_right_comm]

/-- Rules behind others count only if none of those holds. -/
theorem selectFrom_append (f : Facts) (rules rules' : List Rule) (place : Nat) :
    selectFrom f place (rules ++ rules') =
      if rules.any (·.holds f) then selectFrom f place rules
      else selectFrom f (place + rules.length) rules' := by
  induction rules generalizing place with
  | nil => simp
  | cons r rules ih =>
      by_cases holds : r.holds f = true
      · simp [selectFrom, holds]
      · simp [selectFrom, holds, ih, Nat.add_assoc, Nat.add_comm 1]

theorem selectFrom_unnumbered (f : Facts) (rules : List Rule) (place : Nat) :
    selectFrom f place (rules.map Rule.unnumbered) = selectFrom f place rules := by
  induction rules generalizing place with
  | nil => rfl
  | cons r rules ih => simp [selectFrom, ih]

/-- The numbers of lines play no part. -/
theorem selectFrom_congr {rules rules' : List Rule}
    (same : rules.map Rule.unnumbered = rules'.map Rule.unnumbered) (place : Nat) :
    selectFrom f place rules = selectFrom f place rules' := by
  rw [← selectFrom_unnumbered f rules, same, selectFrom_unnumbered]

theorem selectFrom_of_quiet {rules : List Rule} (quiet : ∀ r ∈ rules, r.holds f = false)
    (place : Nat) : selectFrom f place rules = ⟨.approach, none⟩ := by
  induction rules generalizing place with
  | nil => rfl
  | cons r rules ih =>
      rw [List.forall_mem_cons] at quiet
      simp [selectFrom, quiet.1, ih quiet.2]

theorem selectFrom_of_first {earlier later : List Rule} {r : Rule}
    (quiet : ∀ r ∈ earlier, r.holds f = false) (holds : r.holds f = true) (place : Nat) :
    selectFrom f place (earlier ++ r :: later) = ⟨r.action, some (place + earlier.length)⟩ := by
  have passed : ¬ earlier.any (·.holds f) = true := by simpa using quiet
  rw [selectFrom_append, if_neg passed]
  simp [selectFrom, holds]

/-- Some rule of a list is the first that holds, or none holds. -/
theorem exists_first (f : Facts) (rules : List Rule) :
    (∀ r ∈ rules, r.holds f = false) ∨
      ∃ earlier r later, rules = earlier ++ r :: later ∧ r.holds f = true ∧
        ∀ r ∈ earlier, r.holds f = false := by
  cases found : rules.find? (·.holds f) with
  | none => exact .inl (by simpa using List.find?_eq_none.mp found)
  | some r =>
      obtain ⟨holds, earlier, later, whole, before⟩ := List.find?_eq_some_iff_append.mp found
      exact .inr ⟨earlier, r, later, whole, holds, by simpa using before⟩

/-- The rule that decides is the first one that holds. -/
theorem select_eq_some_iff {p : Program} {a : Action} {i : Nat} :
    p.select f = ⟨a, some i⟩ ↔
      ∃ earlier r later, p.rules = earlier ++ r :: later ∧ earlier.length = i ∧ r.action = a ∧
        r.holds f = true ∧ ∀ r ∈ earlier, r.holds f = false := by
  obtain ⟨rules⟩ := p
  unfold Program.select
  constructor
  · intro selected
    obtain quiet | ⟨earlier, r, later, rfl, holds, quiet⟩ := exists_first f rules
    · simp [selectFrom_of_quiet quiet] at selected
    · simp only [selectFrom_of_first quiet holds, Selection.mk.injEq, Option.some.injEq] at selected
      exact ⟨earlier, r, later, rfl, by omega, selected.1, holds, quiet⟩
  · rintro ⟨earlier, r, later, rfl, rfl, rfl, holds, quiet⟩
    simp [selectFrom_of_first quiet holds]

/-- If no rule decides then none holds, and the fighter approaches. -/
theorem select_eq_none_iff {p : Program} {a : Action} :
    p.select f = ⟨a, none⟩ ↔ a = .approach ∧ ∀ r ∈ p.rules, r.holds f = false := by
  obtain ⟨rules⟩ := p
  unfold Program.select
  constructor
  · intro selected
    obtain quiet | ⟨earlier, r, later, rfl, holds, quiet⟩ := exists_first f rules
    · rw [selectFrom_of_quiet quiet] at selected
      exact ⟨congrArg Selection.action selected.symm, quiet⟩
    · simp [selectFrom_of_first quiet holds] at selected
  · rintro ⟨rfl, quiet⟩
    exact selectFrom_of_quiet quiet 0

/-! ## Lines that give rules -/

/-- Whether a line gives a rule. -/
def givesRule (text : List Char) : Bool := (readLine 0 text).rule?.isSome

/-- The lines that give no rule: they are empty or comments, or the grammar refuses
them. -/
theorem givesRule_eq_false_iff {text : List Char} :
    givesRule text = false ↔
      SilentLine (trim text) ∨ ¬ ∃ r, SaysRule 0 (trim text) r := by
  by_cases silent : SilentLine (trim text)
  · have nothing : readLine 0 text = .silent := by
      simp [readLine, isSilent_iff.mpr silent]
    simp [givesRule, nothing, silent, LineResult.rule?]
  · have said : ∀ r, readStatement 0 (trim text) = .ok r ↔ SaysRule 0 (trim text) r :=
      fun r => readStatement_eq_ok_iff (trims_trim text).trimmed
    simp only [givesRule, readLine_of_statement (trims_trim text) silent, silent, ← said, false_or]
    cases readStatement 0 (trim text) <;> simp [LineResult.rule?]

/-- The rules of lines depend on those lines alone that give one. -/
theorem unnumbered_rules (n : Nat) (texts : List (List Char)) :
    ((readLines n texts).filterMap LineResult.rule?).map Rule.unnumbered =
      (texts.filter givesRule).filterMap fun text =>
        (readLine 0 text).rule?.map Rule.unnumbered := by
  induction texts generalizing n with
  | nil => rfl
  | cons text texts ih =>
      have moved : (readLine n text).rule? = (readLine 0 text).rule?.map (Rule.movedBy n) := by
        rw [← rule?_movedBy, ← readLine_movedBy, Nat.zero_add]
      cases read : (readLine 0 text).rule? <;>
        simp [readLines, givesRule, moved, read, ih]

/-- Scripts select alike if they have the same lines that give rules. -/
theorem select_of_same_rules {source source' : String}
    (same : (lines source.toList).filter givesRule = (lines source'.toList).filter givesRule)
    (f : Facts) : (parse source).program.select f = (parse source').program.select f := by
  refine selectFrom_congr ?_ 0
  simp only [parse, unnumbered_rules, same]

/-- What two scripts in one select: what the first selects if one of its rules holds,
and otherwise what the second selects, behind the rules of the first. -/
theorem select_joined (first second : String) (f : Facts) :
    (parse (joined first second)).program.select f =
      if (parse first).program.rules.any (·.holds f) then (parse first).program.select f
      else ((parse second).program.select f).after (parse first).program.rules.length := by
  unfold Program.select
  rw [(parse_joined first second).1, selectFrom_append, selectFrom_add]
  congr 2
  exact selectFrom_congr (by simp [Function.comp_def]) 0

/-- The first rule that holds decides, whatever stands around it in a script. -/
theorem first_rule_decides (first second : String) (f : Facts) :
    let rules := fun source : String => (parse source).program.rules
    let selects := fun source : String => (parse source).program.select f
    (selects (joined first second) =
      if (rules first).any (·.holds f) then selects first
      else (selects second).after (rules first).length) ∧
    (∀ a i, selects first = ⟨a, some i⟩ ↔
      ∃ earlier r later, rules first = earlier ++ r :: later ∧ earlier.length = i ∧
        r.action = a ∧ (∀ c ∈ r.clauses, c.holds f = true) ∧
        ∀ r ∈ earlier, ∃ c ∈ r.clauses, c.holds f = false) ∧
    (∀ a, selects first = ⟨a, none⟩ ↔
      a = .approach ∧ ∀ r ∈ rules first, ∃ c ∈ r.clauses, c.holds f = false) ∧
    ((∃ r ∈ rules first, r.isDefault = true) →
      selects (joined first second) = selects first) ∧
    ((lines first.toList).filter givesRule = (lines second.toList).filter givesRule →
      selects first = selects second) := by
  have fails : ∀ r : Rule, r.holds f = false ↔ ∃ c ∈ r.clauses, c.holds f = false := by
    intro r
    rw [Bool.eq_false_iff, ne_eq, Rule.holds_iff]
    simp
  refine ⟨select_joined first second f, fun a i => ?_, fun a => ?_, ?_,
    fun same => select_of_same_rules same f⟩
  · simpa only [Rule.holds_iff, fails] using select_eq_some_iff (f := f)
  · simpa only [fails] using select_eq_none_iff (f := f)
  · rintro ⟨r, listed, default⟩
    have holds : (parse first).program.rules.any (·.holds f) = true :=
      List.any_eq_true.mpr ⟨r, listed, r.holds_of_isDefault f default⟩
    exact (select_joined first second f).trans (if_pos holds)

/-! ## The starter script -/

theorem toList_starter :
    starter.toList = starterLines.flatMap fun line => line.toList ++ ['\n'] := by
  unfold starter
  rw [String.toList_join, List.flatMap_map]
  refine List.flatMap_congr fun line _ => ?_
  rw [String.toList_append]
  rfl

/-- The script that new fighters start with has no mistakes. -/
theorem parse_starter :
    parse starter =
      ⟨⟨[.whenever [⟨.myHpPercent, .less, .number 20⟩] .retreat 4,
        .whenever [⟨.distanceToEnemy, .less, .number 80⟩] .attack 7,
        .whenever [.isTrue .iAmHeavier, ⟨.distanceToEnemy, .less, .number 150⟩] .ram 10,
        .whenever [.isTrue .iAmFaster] .circleLeft 13,
        .always .approach 15]⟩, []⟩ := by
  unfold parse
  rw [toList_starter]
  decide +kernel

/-- What a fighter with that script does: it saves itself, attacks what is near, rams if it
is heavier and circles if it is faster. -/
theorem act_starter (f : Facts) :
    (parse starter).program.act f =
      if f.myHpPercent < 20 then .retreat
      else if f.distanceToEnemy < 80 then .attack
      else if f.enemyWeight < f.myWeight ∧ f.distanceToEnemy < 150 then .ram
      else if f.enemySpeed < f.mySpeed then .circleLeft
      else .approach := by
  rw [parse_starter]
  simp only [Program.act, Program.select, selectFrom, Rule.holds, Rule.action, List.all_cons,
    List.all_nil, Clause.holds, Clause.isTrue, Facts.value, Operator.holdsOfNumbers,
    Operator.holdsOfBools, Bool.and_true, decide_eq_true_eq, beq_true, Bool.and_eq_true]
  repeat' split
  all_goals rfl

end RobotCombat.Script
