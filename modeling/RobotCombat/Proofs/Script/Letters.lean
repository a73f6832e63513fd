/-
# RobotCombat.Proofs.Script.Letters — scripts ignore letter case outside literals

A script is read alike in small letters, but for the words of its literals: `true` in capitals
is a text, and a text keeps its letters. `folded` forgets what letter case such a word is in,
and whether it is a truth value. Each reader finds the same in a text and in the text in small
letters once both results are folded (`readLine_lower`), and what two results have in common
when they fold alike is spelled out by `Alike`.

* `letter_case_is_ignored`: two scripts that differ in letter case only have the same rules, but
  for the words of their literals, and mistakes on the same lines.
-/
import RobotCombat.Proofs.Script.Lines
import RobotCombat.Proofs.Script.Selection
import RobotCombat.Proofs.Text.Letters

namespace RobotCombat.Script

set_option autoImplicit false

open Text Number

/-! ## Without letter case -/

/-- The word of a literal that is no number. -/
def Literal.word? : Literal → Option (List Char)
  | .number _ => none
  | .bool true => some "true".toList
  | .bool false => some "false".toList
  | .text word => some word

/-- A literal with its word, if it is one, in small letters. -/
def Literal.folded (l : Literal) : Literal :=
  match l.word? with
  | some word => .text (lower word)
  | none => l

def Clause.folded (c : Clause) : Clause := { c with literal := c.literal.folded }

def Rule.folded : Rule → Rule
  | .whenever clauses action line => .whenever (clauses.map Clause.folded) action line
  | .always action line => .always action line

def Problem.folded : Problem → Problem
  | .unknownAction word => .unknownAction (lower word)
  | .badCondition piece => .badCondition (lower piece)
  | .unknownVariable name => .unknownVariable (lower name)
  | p => p

def Mistake.folded (m : Mistake) : Mistake := ⟨m.line, m.problem.folded⟩

def LineResult.folded : LineResult → LineResult
  | .silent => .silent
  | .rule r => .rule r.folded
  | .mistake m => .mistake m.folded

/-- What a reader finds, or its problem, without letter case. -/
def foldedResult {α : Type} (fold : α → α) : Except Problem α → Except Problem α
  | .ok x => .ok (fold x)
  | .error p => .error p.folded

/-! ## Literals -/

/-- A literal is a number if its text writes one, and else a word. -/
theorem folded_ofText (text : List Char) :
    (Literal.ofText text).folded =
      match readSingle? (trim text) with
      | some x => .number x
      | none => .text (lower (trim text)) := by
  have noTrue : readSingle? "true".toList = none := by decide
  have noFalse : readSingle? "false".toList = none := by decide
  unfold Literal.ofText
  dsimp only
  by_cases yes : trim text = "true".toList
  · rw [if_pos yes, yes, noTrue]
    rfl
  · by_cases no : trim text = "false".toList
    · rw [if_neg yes, if_pos no, no, noFalse]
      rfl
    · rw [if_neg yes, if_neg no]
      cases readSingle? (trim text) <;> rfl

theorem ofText_lower (text : List Char) :
    (Literal.ofText (lower text)).folded = (Literal.ofText text).folded := by
  rw [folded_ofText, folded_ofText, trim_lower, readSingle?_lower, lower_lower]

/-! ## Words of the language -/

theorem Action.ofWord?_lower (word : List Char) : ofWord? (lower word) = ofWord? word := by
  unfold ofWord?
  simp only [sameLetters_lower_right]

theorem Variable.ofWord?_lower (word : List Char) : ofWord? (lower word) = ofWord? word := by
  unfold ofWord?
  simp only [sameLetters_lower_right]

theorem Operator.caseless_symbol (o : Operator) : ∀ c ∈ o.symbol, Caseless c := by
  cases o <;> simp [Operator.symbol, Caseless]

/-- A comparison starts a text whatever letters follow. -/
theorem Operator.symbol_prefix_lower (o : Operator) (text : List Char) :
    o.symbol <+: lower text ↔ o.symbol <+: text := by
  rw [← List.isPrefixOf_iff_prefix, ← List.isPrefixOf_iff_prefix]
  exact Bool.eq_iff_iff.mp (startsWith_lower text o.caseless_symbol)

theorem Operator.lower_symbol (o : Operator) : lower o.symbol = o.symbol := by
  cases o <;> decide

theorem splitOperator?_lower (text : List Char) :
    splitOperator? (lower text) =
      (splitOperator? text).map fun found => (found.1, lower found.2) := by
  cases known : splitOperator? text with
  | none =>
      cases known' : splitOperator? (lower text) with
      | none => rfl
      | some found =>
          obtain ⟨-, starts, -⟩ := starts_of_splitOperator? known'
          have first : found.1.symbol <+: text := (found.1.symbol_prefix_lower text).mp starts
          exact absurd first (splitOperator?_eq_none known found.1)
  | some found =>
      obtain ⟨o, rest⟩ := found
      obtain ⟨rfl, starts, longest⟩ := starts_of_splitOperator? known
      have shape : lower (o.symbol ++ rest) = o.symbol ++ lower rest := by
        rw [lower_append, o.lower_symbol]
      have starts' : o.Starts (o.symbol ++ lower rest) := by
        refine ⟨⟨lower rest, rfl⟩, fun o' first => longest o' ?_⟩
        rw [← o'.symbol_prefix_lower, shape]
        exact first
      rw [shape, splitOperator?_of_starts starts']
      rfl

/-! ## Clauses and conditions -/

theorem readClause_lower (piece : List Char) :
    foldedResult Clause.folded (readClause (lower piece)) =
      foldedResult Clause.folded (readClause piece) := by
  unfold readClause
  simp only [takeWhile_lower isWordChar_toLower, dropWhile_lower isWordChar_toLower,
    isEmpty_lower, trimStart_lower, splitOperator?_lower, Variable.ofWord?_lower]
  have refused : foldedResult Clause.folded (.error (.badCondition (lower piece))) =
      foldedResult Clause.folded (.error (.badCondition piece)) := by
    simp [foldedResult, Problem.folded]
  split
  · exact refused
  · cases splitOperator? (trimStart (piece.dropWhile isWordChar)) with
    | none =>
        cases piece.dropWhile isWordChar with
        | nil =>
            cases Variable.ofWord? (piece.takeWhile isWordChar) with
            | none => exact refused
            | some v => rfl
        | cons c after => exact refused
    | some found =>
        obtain ⟨o, rest⟩ := found
        simp only [Option.map_some, trim_lower, isEmpty_lower]
        split
        · exact refused
        · cases Variable.ofWord? (piece.takeWhile isWordChar) with
          | none => simp [foldedResult, Problem.folded]
          | some v => simp [foldedResult, Clause.folded, ofText_lower]

theorem consFirst_lower (c : Char) (pieces : List (List Char)) :
    consFirst c.toLower (pieces.map lower) = (consFirst c pieces).map lower := by
  cases pieces <;> rfl

theorem splitAnd_lower (text : List Char) :
    splitAnd (lower text) = (splitAnd text).map lower := by
  induction text using splitAnd.induct with
  | case1 => simp [splitAnd]
  | case2 c rest word after cut ih =>
      rw [lower_cons, splitAnd, splitAnd]
      simp only [takeSolid_lower, dropSolid_lower, isBlank_toLower, sameLetters_lower_left,
        isEmpty_lower]
      rw [if_pos cut, if_pos cut, ih]
      rfl
  | case3 c rest word after uncut ih =>
      rw [lower_cons, splitAnd, splitAnd]
      simp only [takeSolid_lower, dropSolid_lower, isBlank_toLower, sameLetters_lower_left,
        isEmpty_lower]
      rw [if_neg uncut, if_neg uncut, ih, consFirst_lower]

/-- Two readings that fold alike, continued alike. -/
theorem folded_bind {α β : Type} {fold : α → α} {fold' : β → β} {x x' : Except Problem α}
    {f f' : α → Except Problem β} (first : foldedResult fold x = foldedResult fold x')
    (later : ∀ a a', fold a = fold a' → foldedResult fold' (f a) = foldedResult fold' (f' a')) :
    foldedResult fold' (x >>= f) = foldedResult fold' (x' >>= f') := by
  cases x <;> cases x' <;> simp only [foldedResult, reduceCtorEq] at first
  · exact congrArg Except.error (Except.error.inj first)
  · exact later _ _ (Except.ok.inj first)

/-- Readers that agree on each piece agree on a list of pieces. -/
theorem folded_mapM {α : Type} {fold : α → α} {read read' : List Char → Except Problem α}
    (each : ∀ piece, foldedResult fold (read piece) = foldedResult fold (read' piece))
    (pieces : List (List Char)) :
    foldedResult (List.map fold) (pieces.mapM read) =
      foldedResult (List.map fold) (pieces.mapM read') := by
  induction pieces with
  | nil => rfl
  | cons piece pieces ih =>
      rw [List.mapM_cons, List.mapM_cons]
      refine folded_bind (each piece) fun a a' same => folded_bind ih fun as as' sames => ?_
      show Except.ok (fold a :: as.map fold) = Except.ok (fold a' :: as'.map fold)
      rw [same, sames]

theorem readCondition_lower (condition : List Char) :
    foldedResult (List.map Clause.folded) (readCondition (lower condition)) =
      foldedResult (List.map Clause.folded) (readCondition condition) := by
  unfold readCondition
  rw [splitAnd_lower, List.mapM_map]
  refine folded_mapM (fun piece => ?_) _
  show foldedResult _ (readClause (trim (lower piece))) = _
  rw [trim_lower, readClause_lower]

/-! ## Statements -/

theorem readAction_lower (word : List Char) :
    foldedResult id (readAction (lower word)) = foldedResult id (readAction word) := by
  unfold readAction
  rw [Action.ofWord?_lower]
  cases Action.ofWord? word with
  | none => simp [foldedResult, Problem.folded]
  | some action => rfl

theorem readDefault_lower (n : Nat) (rest : List Char) :
    foldedResult Rule.folded (readDefault n (lower rest)) =
      foldedResult Rule.folded (readDefault n rest) := by
  unfold readDefault
  simp only [trim_lower, startsBlank_lower, isWord_lower]
  split
  · refine folded_bind (readAction_lower (trim rest)) fun a a' same => ?_
    obtain rfl : a = a' := same
    rfl
  · rfl

theorem splitWhen?_lower (rest : List Char) :
    splitWhen? (lower rest) =
      (splitWhen? rest).map fun parts => (lower parts.1, lower parts.2) := by
  unfold splitWhen?
  simp only [startsBlank_lower, trim_lower, splitLast_lower, trimEnd_lower, isWord_lower,
    sameLetters_lower_left, isEmpty_lower]
  split
  · split
    · rfl
    · rfl
  · rfl

theorem readWhen_lower (n : Nat) (rest : List Char) :
    foldedResult Rule.folded (readWhen n (lower rest)) =
      foldedResult Rule.folded (readWhen n rest) := by
  unfold readWhen
  rw [splitWhen?_lower]
  cases splitWhen? rest with
  | none => rfl
  | some parts =>
      refine folded_bind (readAction_lower parts.2) fun a a' same => ?_
      obtain rfl : a = a' := same
      refine folded_bind (readCondition_lower parts.1) fun clauses clauses' same => ?_
      show Except.ok (Rule.whenever (clauses.map Clause.folded) a n) =
        Except.ok (Rule.whenever (clauses'.map Clause.folded) a n)
      rw [same]

theorem readStatement_lower (n : Nat) (text : List Char) :
    foldedResult Rule.folded (readStatement n (lower text)) =
      foldedResult Rule.folded (readStatement n text) := by
  unfold readStatement
  rw [dropKeyword?_lower, dropKeyword?_lower]
  cases dropKeyword? "DEFAULT".toList text with
  | some rest => exact readDefault_lower n rest
  | none =>
      cases dropKeyword? "WHEN".toList text with
      | some rest => exact readWhen_lower n rest
      | none => rfl

theorem isSilent_lower (text : List Char) : isSilent (lower text) = isSilent text := by
  unfold isSilent
  rw [isEmpty_lower, startsWith_lower text (by simp [Caseless]),
    startsWith_lower text (by simp [Caseless])]

/-! ## Lines -/

/-- A line comes to the same in small letters. -/
theorem readLine_lower (n : Nat) (text : List Char) :
    (readLine n (lower text)).folded = (readLine n text).folded := by
  unfold readLine
  simp only [trim_lower, isSilent_lower]
  split
  · rfl
  · have same := readStatement_lower n (trim text)
    cases known : readStatement n (lower (trim text)) <;>
      cases known' : readStatement n (trim text) <;>
      rw [known, known'] at same <;> simp only [foldedResult, reduceCtorEq] at same
    · exact congrArg (fun p => LineResult.mistake ⟨n, p⟩) (Except.error.inj same)
    · exact congrArg LineResult.rule (Except.ok.inj same)

theorem readLines_lower (n : Nat) (texts : List (List Char)) :
    (readLines n (texts.map lower)).map LineResult.folded =
      (readLines n texts).map LineResult.folded := by
  induction texts generalizing n with
  | nil => rfl
  | cons text texts ih =>
      show (readLine n (lower text)).folded :: (readLines (n + 1) (texts.map lower)).map _ =
        (readLine n text).folded :: (readLines (n + 1) texts).map _
      rw [readLine_lower, ih]

theorem rule?_folded (result : LineResult) :
    result.folded.rule? = result.rule?.map Rule.folded := by
  cases result <;> rfl

theorem mistake?_folded (result : LineResult) :
    result.folded.mistake? = result.mistake?.map Mistake.folded := by
  cases result <;> rfl

/-- Scripts that are the same in small letters fold alike. -/
theorem parse_folded {source source' : String}
    (same : sameLetters source.toList source'.toList = true) :
    (parse source).program.rules.map Rule.folded =
        (parse source').program.rules.map Rule.folded ∧
      (parse source).mistakes.map Mistake.folded =
        (parse source').mistakes.map Mistake.folded := by
  have results : (readLines 1 (lines source.toList)).map LineResult.folded =
      (readLines 1 (lines source'.toList)).map LineResult.folded := by
    rw [← readLines_lower, ← lines_lower, sameLetters_iff.mp same, lines_lower, readLines_lower]
  have rules := congrArg (List.filterMap LineResult.rule?) results
  have mistakes := congrArg (List.filterMap LineResult.mistake?) results
  simp only [List.filterMap_map, Function.comp_def, rule?_folded, mistake?_folded] at rules mistakes
  unfold parse
  simp only [List.map_filterMap]
  exact ⟨rules, mistakes⟩

/-! ## What folding keeps -/

/-- Two literals that are the same number, or words that differ in letter case only. -/
structure Literal.Alike (l l' : Literal) : Prop where
  number : ∀ x, l = .number x ↔ l' = .number x
  word : l.word?.map lower = l'.word?.map lower

/-- Two clauses that differ in a word at most. -/
structure Clause.Alike (c c' : Clause) : Prop where
  subject : c.subject = c'.subject
  operator : c.operator = c'.operator
  literal : c.literal.Alike c'.literal

/-- Two rules that differ in the words of clauses at most. -/
structure Rule.Alike (r r' : Rule) : Prop where
  kind : r.isDefault = r'.isDefault
  action : r.action = r'.action
  line : r.line = r'.line
  clauses : List.Forall₂ Clause.Alike r.clauses r'.clauses

/-- Two mistakes on one line whose messages differ in letter case at most. -/
structure Mistake.Alike (m m' : Mistake) : Prop where
  line : m.line = m'.line
  message : sameLetters m.problem.message.toList m'.problem.message.toList = true

theorem forall₂_of_map_eq {α β : Type} {R : α → α → Prop} {fold : α → β}
    (each : ∀ {x x'}, fold x = fold x' → R x x') {xs xs' : List α}
    (same : xs.map fold = xs'.map fold) : List.Forall₂ R xs xs' := by
  have folded : List.Forall₂ (fun x x' => fold x = fold x') xs xs' := by
    rw [← List.forall₂_map_left_iff (R := fun y x' => y = fold x'),
      ← List.forall₂_map_right_iff (R := fun y y' => y = y'), List.forall₂_eq_eq_eq]
    exact same
  exact folded.imp fun _ _ => each

theorem eq_of_forall₂ {α : Type} {R : α → α → Prop} {xs xs' : List α}
    (related : List.Forall₂ R xs xs') (each : ∀ x ∈ xs, ∀ x', R x x' → x = x') : xs = xs' := by
  induction related with
  | nil => rfl
  | @cons x x' xs xs' first later ih =>
      rw [each x List.mem_cons_self x' first,
        ih fun x member => each x (List.mem_cons_of_mem _ member)]

theorem Literal.folded_of_word {l : Literal} {word : List Char} (known : l.word? = some word) :
    l.folded = .text (lower word) := by
  unfold folded
  rw [known]

theorem Literal.eq_number_of_word {l : Literal} (none : l.word? = none) : ∃ x, l = .number x := by
  cases l with
  | number x => exact ⟨x, rfl⟩
  | bool b => cases b <;> cases none
  | text word => cases none

theorem Literal.alike_of_folded {l l' : Literal} (same : l.folded = l'.folded) : l.Alike l' := by
  cases known : l.word? with
  | none =>
      obtain ⟨x, rfl⟩ := eq_number_of_word known
      cases known' : l'.word? with
      | none =>
          obtain ⟨x', rfl⟩ := eq_number_of_word known'
          obtain rfl : x = x' := Literal.number.inj same
          exact ⟨fun _ => Iff.rfl, rfl⟩
      | some word =>
          rw [folded_of_word known'] at same
          cases same
  | some word =>
      rw [folded_of_word known] at same
      cases known' : l'.word? with
      | none =>
          obtain ⟨x', rfl⟩ := eq_number_of_word known'
          cases same
      | some word' =>
          rw [folded_of_word known'] at same
          refine ⟨fun x => ⟨?_, ?_⟩, ?_⟩
          · rintro rfl
            cases known
          · rintro rfl
            cases known'
          · rw [known, known']
            exact congrArg some (Literal.text.inj same)

theorem Clause.alike_of_folded {c c' : Clause} (same : c.folded = c'.folded) : c.Alike c' := by
  obtain ⟨subject, operator, literal⟩ := Clause.mk.inj same
  exact ⟨subject, operator, Literal.alike_of_folded literal⟩

theorem Rule.alike_of_folded {r r' : Rule} (same : r.folded = r'.folded) : r.Alike r' := by
  cases r with
  | whenever clauses action line =>
      cases r' with
      | whenever clauses' action' line' =>
          obtain ⟨clauses, rfl, rfl⟩ := Rule.whenever.inj same
          exact ⟨rfl, rfl, rfl, forall₂_of_map_eq Clause.alike_of_folded clauses⟩
      | always => cases same
  | always action line =>
      cases r' with
      | whenever => cases same
      | always action' line' =>
          obtain ⟨rfl, rfl⟩ := Rule.always.inj same
          exact ⟨rfl, rfl, rfl, .nil⟩

theorem lower_quoted (before after : String) (word : List Char) :
    lower (before ++ String.ofList (lower word) ++ after).toList =
      lower (before ++ String.ofList word ++ after).toList := by
  simp only [String.toList_append, String.toList_ofList, lower_append, lower_lower]

/-- A folded message differs in letter case only. -/
theorem Problem.message_folded (p : Problem) :
    lower p.folded.message.toList = lower p.message.toList := by
  cases p with
  | unknownAction word => exact lower_quoted _ _ (lower word)
  | badCondition piece => exact lower_quoted _ _ piece
  | unknownVariable name => exact lower_quoted _ _ (lower name)
  | _ => rfl

theorem Mistake.alike_of_folded {m m' : Mistake} (same : m.folded = m'.folded) : m.Alike m' := by
  obtain ⟨line, problem⟩ := Mistake.mk.inj same
  refine ⟨line, sameLetters_iff.mpr ?_⟩
  rw [← m.problem.message_folded, problem, m'.problem.message_folded]

theorem Clause.Alike.eq_of_number {c c' : Clause} (alike : c.Alike c')
    (number : c.literal.word? = none) : c = c' := by
  obtain ⟨x, known⟩ := Literal.eq_number_of_word number
  have known' : c'.literal = .number x := (alike.literal.number x).mp known
  obtain ⟨subject, operator, literal⟩ := c
  obtain ⟨subject', operator', literal'⟩ := c'
  obtain rfl : subject = subject' := alike.subject
  obtain rfl : operator = operator' := alike.operator
  obtain rfl : literal = .number x := known
  obtain rfl : literal' = .number x := known'
  rfl

theorem Rule.Alike.eq_of_numbers {r r' : Rule} (alike : r.Alike r')
    (numbers : ∀ c ∈ r.clauses, c.literal.word? = none) : r = r' := by
  have clauses : r.clauses = r'.clauses :=
    eq_of_forall₂ alike.clauses fun c member _ alike => alike.eq_of_number (numbers c member)
  obtain ⟨kind, action, line, -⟩ := alike
  cases r with
  | whenever cs a n =>
      cases r' with
      | whenever cs' a' n' =>
          obtain rfl : a = a' := action
          obtain rfl : n = n' := line
          exact congrArg (Rule.whenever · a n) clauses
      | always => cases kind
  | always a n =>
      cases r' with
      | whenever => cases kind
      | always a' n' =>
          obtain rfl : a = a' := action
          obtain rfl : n = n' := line
          rfl

/-- Scripts ignore letter case outside literals. Two scripts that differ in letter case only
have as many rules, each of the same kind, with the same action, on the same line, and with the
same facts and comparisons; a literal of one is a number exactly when it is the same number in
the other, so that all of them are equal but for clauses with a truth value or a text. Their
mistakes are on the same lines, with messages that differ in letter case at most. -/
theorem letter_case_is_ignored {source source' : String}
    (same : sameLetters source.toList source'.toList = true) :
    List.Forall₂ Rule.Alike (parse source).program.rules (parse source').program.rules ∧
      List.Forall₂ Mistake.Alike (parse source).mistakes (parse source').mistakes ∧
      ((∀ r ∈ (parse source).program.rules, ∀ c ∈ r.clauses, c.literal.word? = none) →
        (parse source').program = (parse source).program) := by
  obtain ⟨rules, mistakes⟩ := parse_folded same
  have alike : List.Forall₂ Rule.Alike (parse source).program.rules (parse source').program.rules :=
    forall₂_of_map_eq Rule.alike_of_folded rules
  refine ⟨alike, forall₂_of_map_eq Mistake.alike_of_folded mistakes, fun numbers => ?_⟩
  have equal : (parse source).program.rules = (parse source').program.rules :=
    eq_of_forall₂ alike fun r member _ alike => alike.eq_of_numbers (numbers r member)
  exact congrArg Program.mk equal.symm

/-- A script in small letters. -/
def whispered : String :=
  "when my_hp < 1e1 and enemy_is_spinning == true do ram\ndefault dance\ndefault wait"

/-- The same script in capitals. -/
def shouted : String :=
  "WHEN MY_HP < 1E1 AND ENEMY_IS_SPINNING == TRUE DO RAM\nDEFAULT DANCE\nDEFAULT WAIT"

/-- In capitals it has the same rules on the same lines, but for the truth value, which is now
a text. -/
theorem shouted_like_whispered :
    sameLetters whispered.toList shouted.toList = true ∧
      List.Forall₂ Rule.Alike (parse whispered).program.rules (parse shouted).program.rules ∧
      (parse shouted).program.rules =
        [.whenever [⟨.myHp, .less, .number 10⟩, ⟨.enemyIsSpinning, .equal, .text "TRUE".toList⟩]
          .ram 1, .always .wait 3] ∧
      (parse shouted).mistakes.map (·.line) = [2] := by
  have same : sameLetters whispered.toList shouted.toList = true := by decide +kernel
  obtain ⟨rules, -, -⟩ := letter_case_is_ignored same
  exact ⟨same, rules, by decide +kernel, by decide +kernel⟩

end RobotCombat.Script
