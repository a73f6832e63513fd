/-
# RobotCombat.Proofs.Script.Statements — statements are read as the grammar says

A statement is taken apart from both ends: its keyword from the front, the action and
the connective from the back, and what is left is the condition. That finds the parts
of which the grammar puts a line together, and no others.

* `readDefault_eq_ok_iff`, `readWhen_eq_ok_iff`: what follows a keyword;
* `defaultLine_iff`, `whenLine_iff`: a line is a keyword and what follows it;
* `readStatement_eq_ok_iff`: a statement is read as the rule that it says.
-/
import RobotCombat.Proofs.Script.Conditions

namespace RobotCombat.Script

set_option autoImplicit false

open Text

/-! ## Words and gaps -/

theorem readAction_eq_ok_iff {word : List Char} {a : Action} :
    readAction word = .ok a ↔ a.Names word := by
  rw [← Action.ofWord?_eq_some_iff]
  unfold readAction
  cases Action.ofWord? word <;> simp

theorem startsBlank_iff {text : List Char} :
    startsBlank text = true ↔ ∃ c ∈ text.head?, isBlank c = true := by
  cases text <;> simp [startsBlank]

/-- A word stands without blanks around it. -/
theorem trimmed_of_solid {word : List Char} (solid : ∀ c ∈ word, isBlank c = false) :
    Trimmed word :=
  ⟨fun c first => solid c (List.mem_of_mem_head? first),
    fun c last => solid c (List.mem_of_mem_getLast? last)⟩

theorem solid_of_isWord {word : List Char} (isWord : isWord word = true) :
    word ≠ [] ∧ ∀ c ∈ word, isBlank c = false := by
  simp only [Text.isWord, Bool.and_eq_true, Bool.not_eq_true', List.isEmpty_eq_false_iff,
    List.all_eq_true] at isWord
  exact ⟨isWord.1, fun c member => isBlank_of_isWordChar (isWord.2 c member)⟩

/-- What starts with a blank and ends without one is a gap and a text without blanks
around it. -/
theorem gap_before_trim {rest : List Char} (blank : startsBlank rest = true)
    (back : ∀ c ∈ rest.getLast?, isBlank c = false) :
    ∃ gap, rest = gap ++ trim rest ∧ Gap gap := by
  obtain ⟨left, right, whole, leftBlank, rightBlank, trimmed⟩ := trims_trim rest
  have nothing : right = [] := by
    rcases List.eq_nil_or_concat right with none | ⟨right, c, rfl⟩
    · exact none
    · have solid := back c (by rw [whole]; simp)
      simp [rightBlank c (by simp)] at solid
  rw [nothing, List.append_nil] at whole
  refine ⟨left, whole, ?_, leftBlank⟩
  rintro rfl
  obtain ⟨c, first, blank⟩ := startsBlank_iff.mp blank
  rw [whole] at first
  simp [trimmed.front c first] at blank

theorem trim_gap_append {gap text : List Char} (apart : Gap gap) (trimmed : Trimmed text) :
    startsBlank (gap ++ text) = true ∧ trim (gap ++ text) = text := by
  constructor
  · rw [startsBlank_iff]
    obtain ⟨c, gap, rfl⟩ := List.exists_cons_of_ne_nil apart.1
    exact ⟨c, rfl, apart.2 c List.mem_cons_self⟩
  · exact Trims.trim_eq ⟨gap, [], by simp, apart.2, by simp [Blanks], trimmed⟩

/-! ## Default lines -/

/-- What follows `DEFAULT` is read as the action that it names after a gap. -/
theorem readDefault_eq_ok_iff {n : Nat} {rest : List Char} {r : Rule}
    (back : ∀ c ∈ rest.getLast?, isBlank c = false) :
    readDefault n rest = .ok r ↔
      ∃ gap word a, rest = gap ++ word ∧ Gap gap ∧ a.Names word ∧ r = .always a n := by
  unfold readDefault
  constructor
  · intro read
    dsimp only at read
    split at read
    · rename_i cond
      simp only [Bool.and_eq_true] at cond
      obtain ⟨a, named, rule⟩ := bind_eq_ok_iff.mp read
      obtain ⟨gap, whole, apart⟩ := gap_before_trim cond.1 back
      exact ⟨gap, trim rest, a, whole, apart, readAction_eq_ok_iff.mp named,
        (pure_eq_ok_iff.mp rule).symm⟩
    · cases read
  · rintro ⟨gap, word, a, rfl, apart, named, rfl⟩
    have solid := (solid_of_isWord named.isWord).2
    obtain ⟨blank, trimmed⟩ := trim_gap_append apart (trimmed_of_solid solid)
    simp only [trimmed, blank, named.isWord, readAction_eq_ok_iff.mpr named]
    rfl

/-- A default line is its keyword and what follows it. -/
theorem defaultLine_iff {line : List Char} {a : Action} :
    DefaultLine line a ↔
      ∃ keyword rest, line = keyword ++ rest ∧ sameLetters keyword "DEFAULT".toList = true ∧
        ∃ gap word, rest = gap ++ word ∧ Gap gap ∧ a.Names word := by
  constructor
  · rintro @⟨keyword, gap, word, _, always, apart, named⟩
    exact ⟨keyword, gap ++ word, rfl, always, gap, word, rfl, apart, named⟩
  · rintro ⟨keyword, _, rfl, always, gap, word, rfl, apart, named⟩
    exact .intro always apart named

/-! ## Conditional lines -/

/-- What follows `WHEN` in a line: a condition with a core, `DO` and a last word. -/
def WhenParts (rest core word : List Char) : Prop :=
  ∃ gap condition gap' connective gap'',
    rest = gap ++ (condition ++ (gap' ++ (connective ++ (gap'' ++ word)))) ∧
    Gap gap ∧ (Trims condition core ∧ core ≠ []) ∧ Gap gap' ∧
    sameLetters connective "DO".toList = true ∧ Gap gap'' ∧ isWord word = true

theorem WhenParts.trimmed {rest core word : List Char} (parts : WhenParts rest core word) :
    Trimmed core := by
  obtain ⟨_, _, _, _, _, _, _, ⟨trims, _⟩, _⟩ := parts
  exact trims.trimmed

theorem nonempty_of_leads {connective : List Char}
    (leads : sameLetters connective "DO".toList = true) :
    connective ≠ [] ∧ ∀ c ∈ connective, isBlank c = false :=
  solid_of_isWord (isWord_of_sameLetters (sameLetters_comm leads) (by decide))

/-- What is split off at the last two words are the parts of the line. -/
theorem whenParts_of_splitWhen? {rest core word : List Char}
    (back : ∀ c ∈ rest.getLast?, isBlank c = false) (found : splitWhen? rest = some (core, word)) :
    WhenParts rest core word := by
  unfold splitWhen? at found
  split at found
  · rename_i blank
    rcases outer : splitLast (trim rest) with ⟨head, action⟩
    rcases inner : splitLast (trimEnd head) with ⟨condition, connective⟩
    simp only [outer, inner] at found
    split at found
    · rename_i cond
      simp only [Option.some.injEq, Prod.mk.injEq] at found
      obtain ⟨rfl, rfl⟩ := found
      simp only [Bool.and_eq_true, Bool.not_eq_true', List.isEmpty_eq_false_iff] at cond
      obtain ⟨⟨isWord, leads⟩, present⟩ := cond
      obtain ⟨whole, -, headEnds⟩ := splitLast_eq_iff.mp outer
      obtain ⟨headWhole, -, conditionEnds⟩ := splitLast_eq_iff.mp inner
      obtain ⟨gap, restWhole, apart⟩ := gap_before_trim blank back
      obtain ⟨gap'', headSplit, blanks''⟩ := exists_trimEnd head
      obtain ⟨left, gap', conditionSplit, leftBlank, blanks', trimmed⟩ := trims_trim condition
      refine ⟨gap, left ++ trim condition, gap', connective, gap'', ?_, apart, ⟨?_, present⟩,
        ⟨?_, blanks'⟩, leads, ⟨?_, blanks''⟩, isWord⟩
      · rw [restWhole, whole, headSplit, headWhole]
        nth_rewrite 1 [conditionSplit]
        simp
      · exact ⟨left, [], by simp, leftBlank, by simp [Blanks], trimmed⟩
      · -- the condition ends in a blank, and its core does not
        rintro rfl
        obtain ⟨core, c, last⟩ := (List.eq_nil_or_concat (trim condition)).resolve_left present
        have solid := trimmed.back c (by rw [last]; simp)
        have blank := conditionEnds c (by rw [conditionSplit, last]; simp)
        simp [blank] at solid
      · -- the text before the last word ends in a blank, and `DO` does not
        rintro rfl
        obtain ⟨nonempty, solid⟩ := nonempty_of_leads leads
        have last : connective.getLast nonempty ∈ head.getLast? := by
          rw [headSplit, headWhole, List.append_nil, List.getLast?_append,
            List.getLast?_eq_some_getLast nonempty]
          rfl
        have blank := headEnds _ last
        simp [solid _ (List.getLast_mem nonempty)] at blank
    · cases found
  · cases found

/-- The parts of a line are split off at its last two words. -/
theorem splitWhen?_of_whenParts {rest core word : List Char} (parts : WhenParts rest core word) :
    splitWhen? rest = some (core, word) := by
  obtain ⟨gap, condition, gap', connective, gap'', rfl, apart,
    ⟨⟨left, right, rfl, leftBlank, rightBlank, trimmed⟩, present⟩, apart', leads, apart'',
    isWord⟩ := parts
  obtain ⟨nonempty, solid⟩ := solid_of_isWord isWord
  obtain ⟨nonempty', solid'⟩ := nonempty_of_leads leads
  have lead : Gap (gap ++ left) := by
    refine ⟨by simp [apart.1], ?_⟩
    intro c member
    rcases List.mem_append.mp member with inGap | inLeft
    · exact apart.2 c inGap
    · exact leftBlank c inLeft
  have trimmedText :
      Trimmed (core ++ (right ++ (gap' ++ (connective ++ gap''))) ++ word) := by
    constructor
    · intro c first
      obtain ⟨c', core, rfl⟩ := List.exists_cons_of_ne_nil present
      exact trimmed.front c first
    · exact fun c last => solid c (mem_of_last nonempty last)
  obtain ⟨blank, text⟩ := trim_gap_append lead trimmedText
  have outer : splitLast (core ++ (right ++ (gap' ++ (connective ++ gap''))) ++ word) =
      (core ++ (right ++ gap') ++ connective ++ gap'', word) := by
    refine splitLast_eq_iff.mpr ⟨by simp, solid, ?_⟩
    exact fun c last => apart''.2 c (mem_of_last apart''.1 last)
  have between : trimEnd (core ++ (right ++ gap') ++ connective ++ gap'') =
      core ++ (right ++ gap') ++ connective :=
    trimEnd_append apart''.2 fun c last => solid' c (mem_of_last nonempty' last)
  have inner : splitLast (core ++ (right ++ gap') ++ connective) =
      (core ++ (right ++ gap'), connective) := by
    refine splitLast_eq_iff.mpr ⟨rfl, solid', ?_⟩
    intro c last
    rw [← List.append_assoc] at last
    exact apart'.2 c (mem_of_last apart'.1 last)
  have middle : trim (core ++ (right ++ gap')) = core := by
    refine Trims.trim_eq ⟨[], right ++ gap', by simp, by simp [Blanks], ?_, trimmed⟩
    intro c member
    rcases List.mem_append.mp member with inRight | inGap
    · exact rightBlank c inRight
    · exact apart'.2 c inGap
  have whole : gap ++ (left ++ core ++ right ++ (gap' ++ (connective ++ (gap'' ++ word)))) =
      (gap ++ left) ++ (core ++ (right ++ (gap' ++ (connective ++ gap''))) ++ word) := by simp
  unfold splitWhen?
  rw [whole, if_pos blank, text]
  simp only [outer, between, inner, middle]
  rw [if_pos (by rw [isWord, leads]; simpa using present)]

/-- What follows `WHEN` is read as the condition and the action that it says. -/
theorem readWhen_eq_ok_iff {n : Nat} {rest : List Char} {r : Rule}
    (back : ∀ c ∈ rest.getLast?, isBlank c = false) :
    readWhen n rest = .ok r ↔
      ∃ core word clauses a, WhenParts rest core word ∧ SaysCondition core clauses ∧
        a.Names word ∧ r = .whenever clauses a n := by
  unfold readWhen
  constructor
  · intro read
    cases found : splitWhen? rest with
    | none => simp [found] at read
    | some parts =>
        obtain ⟨core, word⟩ := parts
        have parts := whenParts_of_splitWhen? back found
        simp only [found, bind_eq_ok_iff, pure_eq_ok_iff] at read
        obtain ⟨a, named, clauses, meant, rfl⟩ := read
        exact ⟨core, word, clauses, a, parts, (readCondition_eq_ok_iff parts.trimmed).mp meant,
          readAction_eq_ok_iff.mp named, rfl⟩
  · rintro ⟨core, word, clauses, a, parts, meaning, named, rfl⟩
    simp only [splitWhen?_of_whenParts parts, readAction_eq_ok_iff.mpr named,
      (readCondition_eq_ok_iff parts.trimmed).mpr meaning]
    rfl

/-- A conditional line is its keyword and what follows it. -/
theorem whenLine_iff {line : List Char} {clauses : List Clause} {a : Action} :
    WhenLine line clauses a ↔
      ∃ keyword rest, line = keyword ++ rest ∧ sameLetters keyword "WHEN".toList = true ∧
        ∃ core word, WhenParts rest core word ∧ SaysCondition core clauses ∧ a.Names word := by
  constructor
  · rintro @⟨keyword, gap, condition, gap', connective, gap'', word, core, _, _, whenever, apart, -,
      trims, meaning, apart', leads, apart'', named⟩
    exact ⟨keyword, _, rfl, whenever, core, word, ⟨gap, condition, gap', connective, gap'', rfl,
      apart, ⟨trims, meaning.nonempty⟩, apart', leads, apart'', named.isWord⟩, meaning, named⟩
  · rintro ⟨keyword, _, rfl, whenever, core, word, ⟨gap, condition, gap', connective, gap'', rfl,
      apart, ⟨trims, present⟩, apart', leads, apart'', -⟩, meaning, named⟩
    refine .intro whenever apart ?_ trims meaning apart' leads apart'' named
    rintro rfl
    exact present trims.trim_eq.symm

/-! ## Statements -/

/-- No text starts with both keywords. -/
theorem not_both_keywords {start start' rest rest' : List Char}
    (same : start ++ rest = start' ++ rest') (always : sameLetters start "DEFAULT".toList = true)
    (whenever : sameLetters start' "WHEN".toList = true) : False := by
  have letters := congrArg (fun text => lower (text.take 1)) same
  rw [sameLetters_iff] at always whenever
  cases start with
  | nil => simp [lower] at always
  | cons c start =>
      cases start' with
      | nil => simp [lower] at whenever
      | cons c' start' => simp_all [lower]

theorem Trimmed.back_of_append {start rest : List Char} (trimmed : Trimmed (start ++ rest)) :
    ∀ c ∈ rest.getLast?, isBlank c = false := by
  intro c last
  apply trimmed.back c
  rw [List.getLast?_append, Option.mem_def.mp last]
  rfl

/-- A statement is read as the rule that it says. -/
theorem readStatement_eq_ok_iff {n : Nat} {line : List Char} (trimmed : Trimmed line) {r : Rule} :
    readStatement n line = .ok r ↔ SaysRule n line r := by
  unfold readStatement
  constructor
  · intro read
    cases always : dropKeyword? "DEFAULT".toList line with
    | some rest =>
        rw [always] at read
        obtain ⟨start, rfl, same⟩ := dropKeyword?_eq_some_iff.mp always
        obtain ⟨gap, word, a, whole, apart, named, rfl⟩ :=
          (readDefault_eq_ok_iff (Trimmed.back_of_append trimmed)).mp read
        exact .always (defaultLine_iff.mpr
          ⟨start, rest, rfl, same, gap, word, whole, apart, named⟩)
    | none =>
        rw [always] at read
        cases whenever : dropKeyword? "WHEN".toList line with
        | none =>
            rw [whenever] at read
            cases read
        | some rest =>
            rw [whenever] at read
            obtain ⟨start, rfl, same⟩ := dropKeyword?_eq_some_iff.mp whenever
            obtain ⟨core, word, clauses, a, parts, meaning, named, rfl⟩ :=
              (readWhen_eq_ok_iff (Trimmed.back_of_append trimmed)).mp read
            exact .whenever (whenLine_iff.mpr
              ⟨start, rest, rfl, same, core, word, parts, meaning, named⟩)
  · intro meaning
    cases meaning with
    | @always a default =>
        obtain ⟨start, rest, rfl, same, gap, word, whole, apart, named⟩ :=
          defaultLine_iff.mp default
        rw [dropKeyword?_eq_some_iff.mpr ⟨start, rfl, same⟩]
        exact (readDefault_eq_ok_iff (Trimmed.back_of_append trimmed)).mpr
          ⟨gap, word, a, whole, apart, named, rfl⟩
    | @whenever clauses a conditional =>
        obtain ⟨start, rest, rfl, same, core, word, parts, meaning, named⟩ :=
          whenLine_iff.mp conditional
        have other : dropKeyword? "DEFAULT".toList (start ++ rest) = none := by
          cases always : dropKeyword? "DEFAULT".toList (start ++ rest) with
          | none => rfl
          | some rest' =>
              obtain ⟨start', whole, always⟩ := dropKeyword?_eq_some_iff.mp always
              exact (not_both_keywords whole.symm always same).elim
        rw [other]
        dsimp only
        rw [dropKeyword?_eq_some_iff.mpr ⟨start, rfl, same⟩]
        exact (readWhen_eq_ok_iff (Trimmed.back_of_append trimmed)).mpr
          ⟨core, word, clauses, a, parts, meaning, named, rfl⟩

end RobotCombat.Script
