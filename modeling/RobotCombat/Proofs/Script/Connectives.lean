/-
# RobotCombat.Proofs.Script.Connectives — where a word `AND` may stand

A condition is cut at its words `AND`, and every piece has to be a clause. So a word `AND`
joins two conditions, or the line is refused, wherever it stands but in one place: the last
word of a condition is never a cut. There it stays with its piece, and a piece that compares
a fact takes it into the literal.

* `leading_connective_refused`: no condition is read off a text that starts with the word;
* `clause_of_last_word`: a clause that ends in the word compares a fact with a text, and
  never holds;
* `connective_joins_or_is_last`: all places of the word in the condition of a line.
-/
import Mathlib.Data.List.Induction
import RobotCombat.Proofs.Number.Endings
import RobotCombat.Proofs.Script.Cuts
import RobotCombat.Proofs.Script.Lines
import RobotCombat.Proofs.Text.Letters
import RobotCombat.Script.Interpreter

set_option autoImplicit false

namespace RobotCombat.Script

open Text

/-! ## Reading pieces -/

/-- The clauses of pieces, or the first problem among them. -/
def readPieces (pieces : List (List Char)) : Except Problem (List Clause) :=
  pieces.mapM fun piece => readClause (trim piece)

theorem readPieces_append {pieces pieces' : List (List Char)} {clauses : List Clause} :
    readPieces (pieces ++ pieces') = .ok clauses ↔
      ∃ first later, readPieces pieces = .ok first ∧ readPieces pieces' = .ok later ∧
        first ++ later = clauses := by
  simp only [readPieces, List.mapM_append, bind_eq_ok_iff, pure_eq_ok_iff]
  constructor
  · rintro ⟨first, read, later, read', rfl⟩
    exact ⟨first, later, read, read', rfl⟩
  · rintro ⟨first, later, read, read', rfl⟩
    exact ⟨first, read, later, read', rfl⟩

theorem readPieces_cons {piece : List Char} {pieces : List (List Char)} {clauses : List Clause} :
    readPieces (piece :: pieces) = .ok clauses ↔
      ∃ clause later, readClause (trim piece) = .ok clause ∧ readPieces pieces = .ok later ∧
        clause :: later = clauses := by
  simp only [readPieces, List.mapM_cons, bind_eq_ok_iff, pure_eq_ok_iff]
  constructor
  · rintro ⟨clause, read, later, read', rfl⟩
    exact ⟨clause, later, read, read', rfl⟩
  · rintro ⟨clause, later, read, read', rfl⟩
    exact ⟨clause, read, later, read', rfl⟩

theorem readPieces_single {piece : List Char} {clauses : List Clause} :
    readPieces [piece] = .ok clauses ↔
      ∃ clause, readClause (trim piece) = .ok clause ∧ clauses = [clause] := by
  rw [readPieces_cons]
  constructor
  · rintro ⟨clause, later, read, none, rfl⟩
    obtain rfl : later = [] := (pure_eq_ok_iff.mp none).symm
    exact ⟨clause, read, rfl⟩
  · rintro ⟨clause, read, rfl⟩
    exact ⟨clause, [], read, rfl, rfl⟩

/-- Nothing between two cuts is no clause. -/
theorem blank_piece_refused {b : Char} (blank : isBlank b = true) (clause : Clause) :
    readClause (trim [b]) ≠ .ok clause := by
  rw [trim_cons_blank blank]
  simp [trim, trimStart, trimEnd, readClause]

/-- Blanks in front of a text are not read. -/
theorem readPieces_of_blanks_append {gap text : List Char} (blanks : Blanks gap)
    {clauses : List Clause} (read : readPieces (splitAnd (gap ++ text)) = .ok clauses) :
    readPieces (splitAnd text) = .ok clauses := by
  induction gap with
  | nil => exact read
  | cons b gap ih =>
      have blank : isBlank b = true := blanks b List.mem_cons_self
      apply ih fun c member => blanks c (List.mem_cons_of_mem b member)
      rw [List.cons_append, splitAnd] at read
      split at read
      · obtain ⟨clause, _, first, -⟩ := readPieces_cons.mp read
        exact absurd first (blank_piece_refused blank clause)
      · obtain ⟨piece, pieces, pieced⟩ := List.exists_cons_of_ne_nil (splitAnd_ne_nil (gap ++ text))
        rw [pieced] at read ⊢
        simp only [consFirst, readPieces_cons, trim_cons_blank blank] at read
        exact readPieces_cons.mpr read

/-- Blanks after a text are not read either. -/
theorem readPieces_of_append_blanks {text gap : List Char} (blanks : Blanks gap)
    {clauses : List Clause} (read : readPieces (splitAnd (text ++ gap)) = .ok clauses) :
    readPieces (splitAnd text) = .ok clauses := by
  induction gap using List.reverseRecOn with
  | nil => rwa [List.append_nil] at read
  | append_singleton gap b ih =>
      have blank : isBlank b = true := blanks b (by simp)
      apply ih fun c member => blanks c (List.mem_append_left _ member)
      obtain ⟨pieces, last, without, more⟩ := splitAnd_concat_blank blank (text ++ gap)
      rw [← List.append_assoc] at read
      rw [without]
      rcases more with kept | ⟨piece, own⟩
      · rw [kept] at read
        obtain ⟨first, later, front, back, rfl⟩ := readPieces_append.mp read
        simp only [readPieces_single, trim_append_blank blank] at back
        exact readPieces_append.mpr ⟨first, later, front, readPieces_single.mpr back, rfl⟩
      · rw [own] at read
        obtain ⟨_, later, -, back, -⟩ := readPieces_append.mp read
        obtain ⟨_, _, -, end_, -⟩ := readPieces_cons.mp back
        obtain ⟨clause, blankRead, -⟩ := readPieces_single.mp end_
        exact absurd blankRead (blank_piece_refused blank clause)

/-- What is read with blanks around it is read as a condition without them. -/
theorem saysCondition_trim {text : List Char} {clauses : List Clause}
    (read : readPieces (splitAnd text) = .ok clauses) :
    clauses ≠ [] ∧ SaysCondition (trim text) clauses := by
  constructor
  · rintro rfl
    obtain ⟨piece, pieces, pieced⟩ := List.exists_cons_of_ne_nil (splitAnd_ne_nil text)
    rw [pieced] at read
    obtain ⟨_, _, -, -, impossible⟩ := readPieces_cons.mp read
    cases impossible
  · obtain ⟨left, right, whole, leftBlank, rightBlank, trimmed⟩ := trims_trim text
    rw [whole, List.append_assoc] at read
    have front := readPieces_of_blanks_append leftBlank read
    exact (readCondition_eq_ok_iff trimmed).mp (readPieces_of_append_blanks rightBlank front)

/-! ## The word at the front -/

section Word

variable {word : List Char} (connects : Connects word)

include connects in
theorem solid_of_connects : word ≠ [] ∧ ∀ c ∈ word, isWordChar c = true ∧ isBlank c = false := by
  have isWord : isWord word = true :=
    isWord_of_sameLetters (sameLetters_comm connects) (by decide)
  simp only [Text.isWord, Bool.and_eq_true, Bool.not_eq_true', List.isEmpty_eq_false_iff,
    List.all_eq_true] at isWord
  exact ⟨isWord.1, fun c member => ⟨isWord.2 c member, isBlank_of_isWordChar (isWord.2 c member)⟩⟩

include connects in
/-- The word is not the name of a fact. -/
theorem ofWord?_of_connects : Variable.ofWord? word = none := by
  cases found : Variable.ofWord? word with
  | none => rfl
  | some v =>
      have named : sameLetters v.name.toList word = true := Variable.ofWord?_eq_some_iff.mp found
      have same : lower v.name.toList = lower "AND".toList :=
        (sameLetters_iff.mp named).trans (sameLetters_iff.mp connects)
      exact absurd same (by cases v <;> decide)

include connects in
/-- A piece that starts with the word is no clause. -/
theorem readClause_connects {rest : List Char} (stops : ∀ c ∈ rest.head?, isBlank c = true)
    (clause : Clause) : readClause (word ++ rest) ≠ .ok clause := by
  intro read
  have solid := solid_of_connects connects
  have ends : ∀ c ∈ rest.head?, isWordChar c = false := by
    intro c first
    by_contra inWord
    have solid := isBlank_of_isWordChar (Bool.not_eq_false _ ▸ inWord)
    rw [stops c first] at solid
    cases solid
  obtain ⟨taken, dropped⟩ := span_append (fun c member => (solid.2 c member).1) ends
  simp only [readClause, taken, dropped, ofWord?_of_connects connects] at read
  split at read
  · cases read
  · split at read
    · cases read
    · split at read <;> cases read

include connects in
/-- No condition is read off a text that starts with the word. -/
theorem leading_connective_refused {rest : List Char}
    (stops : ∀ c ∈ rest.head?, isBlank c = true) (clauses : List Clause) :
    readPieces (splitAnd (word ++ rest)) ≠ .ok clauses := by
  intro read
  obtain ⟨nonempty, solid⟩ := solid_of_connects connects
  obtain ⟨piece, pieces, pieced⟩ := List.exists_cons_of_ne_nil (splitAnd_ne_nil rest)
  rw [splitAnd_word_append (fun c member => (solid c member).2) pieced] at read
  obtain ⟨clause, _, first, -⟩ := readPieces_cons.mp read
  rw [trim_solid_append nonempty fun c member => (solid c member).2] at first
  refine readClause_connects connects ?_ clause first
  intro c start
  apply stops
  apply head?_of_splitAnd pieced
  obtain ⟨right, whole, -⟩ := exists_trimEnd piece
  rw [whole, List.head?_append, Option.mem_def.mp start]
  rfl

/-! ## The word at the end -/

include connects in
/-- The word ends in a letter that no numeral and no truth value ends in. -/
theorem last_of_connects : ∃ c ∈ word.getLast?, c.toLower = 'd' := by
  have small : lower word = "AND".toList.map Char.toLower := sameLetters_iff.mp connects
  have last : (lower word).getLast? = some 'd' := by rw [small]; decide
  rw [lower, List.getLast?_map, Option.map_eq_some_iff] at last
  exact last

include connects in
/-- A text that ends in the word is no number and no truth value. -/
theorem ofText_of_connects {value : List Char} (trimmed : Trimmed (value ++ word)) :
    Literal.ofText (value ++ word) = .text (value ++ word) := by
  obtain ⟨c, last, letter⟩ := last_of_connects connects
  have ends : (value ++ word).getLast? = some c := by
    rw [List.getLast?_append, Option.mem_def.mp last]
    rfl
  have ends_other : ∀ text : List Char, text.getLast?.map Char.toLower ≠ some 'd' →
      value ++ word ≠ text := by
    rintro text other rfl
    rw [ends, Option.map_some, letter] at other
    exact other rfl
  have noNumber : Number.readSingle? (value ++ word) = none := by
    cases read : Number.readSingle? (value ++ word) with
    | none => rfl
    | some x =>
        rcases Number.last_of_readSingle? read c ends with digit | rfl
        · rw [← Number.isDigit_toLower, letter] at digit
          exact absurd digit (by decide)
        · exact absurd letter (by decide)
  unfold Literal.ofText
  simp only [trimmed.trim_eq, if_neg (ends_other "true".toList (by decide)),
    if_neg (ends_other "false".toList (by decide)), noNumber]

include connects in
/-- A clause that ends in the word compares a fact with a text that ends in it. -/
theorem clause_of_last_word {front : List Char} (starts : ∀ c ∈ front.getLast?, isBlank c = true)
    {clause : Clause} (read : readClause (front ++ word) = .ok clause) :
    ∃ v o value, clause = ⟨v, o, .text (value ++ word)⟩ ∧
      ∀ c ∈ value.getLast?, isBlank c = true := by
  obtain ⟨nonempty, solid⟩ := solid_of_connects connects
  have said := readClause_eq_ok_iff.mp read
  generalize whole : front ++ word = text at said
  cases said with
  | @fact _ v named =>
      -- the whole text would be the name of a fact
      have all := (solid_of_isWord named.isWord).2
      rcases List.eq_nil_or_concat front with rfl | ⟨front, b, rfl⟩
      · have known : Variable.ofWord? word = some v :=
          Variable.ofWord?_eq_some_iff.mpr (by rwa [← whole] at named)
        rw [ofWord?_of_connects connects] at known
        cases known
      · have blank := starts b (by simp)
        rw [all b (by simp [← whole])] at blank
        cases blank
  | @comparison name gap rest value v o named blanks longest trims present =>
      obtain ⟨left, right, rfl, leftBlank, rightBlank, trimmed⟩ := trims
      have nothing : right = [] := by
        rcases List.eq_nil_or_concat right with rfl | ⟨right, b, rfl⟩
        · rfl
        · have last : b ∈ (front ++ word).getLast? := by simp [whole, ← List.append_assoc]
          have inWord := mem_of_last nonempty last
          have blank := rightBlank b (by simp)
          rw [(solid b inWord).2] at blank
          cases blank
      subst nothing
      have split : (name ++ gap ++ (o.symbol ++ left)) ++ value = front ++ word := by
        simp [whole]
      have meaning : ∀ before : List Char, value = before ++ word →
          Literal.ofText value = .text (before ++ word) := by
        rintro before rfl
        exact ofText_of_connects connects trimmed
      rcases List.append_eq_append_iff.mp split with ⟨x, rest, same⟩ | ⟨x, rest, same⟩
      · exact ⟨v, o, x, by rw [meaning x same], fun c last => starts c (by
          rw [rest, List.getLast?_append, Option.mem_def.mp last]
          rfl)⟩
      · -- the word would begin before the literal does, at a blank or in the comparison
        rcases List.eq_nil_or_concat x with rfl | ⟨x, c, rfl⟩
        · exact ⟨v, o, [], by rw [meaning [] same.symm], by simp⟩
        · obtain ⟨wordChar, notBlank⟩ := solid c (by simp [same])
          have last : c ∈ (name ++ gap ++ (o.symbol ++ left)).getLast? := by
            rw [rest]
            simp
          have some : o.symbol ++ left ≠ [] := by cases o <;> simp [Operator.symbol]
          rcases List.mem_append.mp (mem_of_last some last) with inSymbol | inLeft
          · have symbols : (o.symbol.any isWordChar) = false := by cases o <;> decide
            have notWord := List.any_eq_false.mp symbols c inSymbol
            exact absurd wordChar notWord
          · rw [leftBlank c inLeft] at notBlank
            cases notBlank

/-- A comparison with a text holds in no situation. -/
theorem holds_text (f : Facts) (v : Variable) (o : Operator) (text : List Char) :
    Clause.holds f ⟨v, o, .text text⟩ = false := by
  unfold Clause.holds
  cases f.value v <;> rfl

end Word

/-! ## The word in a condition -/

/-- A word `AND` of a condition has no clause to join on one side: nothing but blanks stands
before it, or next to it stands another such word. -/
inductive Dangles (before after : List Char) : Prop
  | first (blanks : Blanks before)
  | behind {front word gap : List Char} (whole : before = front ++ (word ++ gap))
      (stands : StandsAsWord front word gap) (connects : Connects word) (blanks : Blanks gap)
  | ahead {gap word rest : List Char} (whole : after = gap ++ (word ++ rest))
      (stands : StandsAsWord gap word rest) (connects : Connects word) (blanks : Blanks gap)

/-- The last clause compares a fact with a text that ends in a word. -/
def EndsInText (clauses : List Clause) (word : List Char) : Prop :=
  ∃ first v o value, clauses = first ++ [⟨v, o, .text (value ++ word)⟩] ∧
    ∀ c ∈ value.getLast?, isBlank c = true

theorem EndsInText.never_holds {clauses : List Clause} {word : List Char}
    (ends : EndsInText clauses word) (a : Action) (n : Nat) (f : Facts) :
    (Rule.whenever clauses a n).holds f = false := by
  obtain ⟨first, v, o, value, rfl, -⟩ := ends
  simp [Rule.holds, holds_text]

section Condition

variable {before connective after : List Char} (stands : StandsAsWord before connective after)
  (connects : Connects connective) {clauses : List Clause}
  (read : readPieces (splitAnd (before ++ (connective ++ after))) = .ok clauses)

include stands connects read in
/-- Something stands before each word `AND` of a condition that is read, and a blank last. -/
theorem exists_blank_before : ∃ front b, before = front ++ [b] ∧ isBlank b = true := by
  rcases List.eq_nil_or_concat before with rfl | ⟨front, b, rfl⟩
  · exact absurd read (leading_connective_refused connects stands.stops clauses)
  · exact ⟨front, b, List.concat_eq_append, stands.starts b (by simp)⟩

include stands connects read in
/-- Before a text the word is a cut. -/
theorem exists_join (more : after ≠ []) :
    ∃ first later, readPieces (splitAnd before) = .ok first ∧
      readPieces (splitAnd after) = .ok later ∧ first ++ later = clauses := by
  obtain ⟨front, b, rfl, blank⟩ := exists_blank_before stands connects read
  rw [List.append_assoc, List.singleton_append,
    splitAnd_join blank stands.solid connects stands.stops more] at read
  exact readPieces_append.mp read

include stands connects read in
/-- After all else the word belongs to the literal of a comparison. -/
theorem endsInText_of_last (last : after = []) : EndsInText clauses connective := by
  obtain ⟨nonempty, -⟩ := solid_of_connects connects
  obtain ⟨front, b, rfl, blank⟩ := exists_blank_before stands connects read
  subst last
  obtain ⟨pieces, piece, -, pieced⟩ := splitAnd_last_word blank stands.solid front
  rw [List.append_nil, List.append_assoc, List.singleton_append, pieced] at read
  obtain ⟨first, _, -, back, rfl⟩ := readPieces_append.mp read
  obtain ⟨clause, meant, rfl⟩ := readPieces_single.mp back
  rw [List.append_cons, trim_append_solid nonempty stands.solid] at meant
  have starts : ∀ c ∈ (trimStart (piece ++ [b])).getLast?, isBlank c = true := by
    intro c last
    have whole : (piece ++ [b]).takeWhile isBlank ++ trimStart (piece ++ [b]) = piece ++ [b] :=
      List.takeWhile_append_dropWhile
    have same : (piece ++ [b]).getLast? = some c := by
      rw [← whole, List.getLast?_append, Option.mem_def.mp last]
      rfl
    obtain rfl : b = c := by simpa using same
    exact blank
  obtain ⟨v, o, value, rfl, gap⟩ := clause_of_last_word connects starts meant
  exact ⟨first, v, o, value, rfl, gap⟩

include stands connects read in
/-- In a condition that is read no word `AND` dangles in front or next to another. -/
theorem not_dangles (trimmed : Trimmed (before ++ (connective ++ after))) :
    ¬ Dangles before after := by
  have leads : before ≠ [] := by
    obtain ⟨front, b, rfl, -⟩ := exists_blank_before stands connects read
    simp
  intro dangles
  cases dangles with
  | first blanks =>
      obtain ⟨c, rest, rfl⟩ := List.exists_cons_of_ne_nil leads
      have solid := trimmed.front c rfl
      rw [blanks c List.mem_cons_self] at solid
      cases solid
  | @behind front word gap whole word_stands word_connects blanks =>
      have apart : gap ≠ [] := by
        rintro rfl
        rw [List.append_nil] at whole
        have last : word.getLast word_stands.nonempty ∈ before.getLast? := by
          rw [whole, List.getLast?_append, List.getLast?_eq_some_getLast word_stands.nonempty]
          rfl
        have blank := stands.starts _ last
        rw [word_stands.solid _ (List.getLast_mem word_stands.nonempty)] at blank
        cases blank
      obtain ⟨b, gap, rfl⟩ := List.exists_cons_of_ne_nil apart
      have word_stops : StandsAsWord front word (b :: gap ++ (connective ++ after)) :=
        ⟨word_stands.nonempty, word_stands.solid, word_stands.starts, word_stands.stops⟩
      rw [whole, List.append_assoc, List.append_assoc] at read
      obtain ⟨_, later, -, rest, -⟩ := exists_join word_stops word_connects read (by simp)
      exact leading_connective_refused connects stands.stops later
        (readPieces_of_blanks_append blanks rest)
  | @ahead gap word rest whole word_stands word_connects blanks =>
      have more : after ≠ [] := by
        rw [whole]
        simp [word_stands.nonempty]
      obtain ⟨_, later, -, rest, -⟩ := exists_join stands connects read more
      rw [whole] at rest
      exact leading_connective_refused word_connects word_stands.stops later
        (readPieces_of_blanks_append blanks rest)

end Condition

/-! ## The word in a line -/

section Line

variable {n : Nat} {line keyword rest core word : List Char}
  (whole : line = keyword ++ rest) (whenever : sameLetters keyword "WHEN".toList = true)

include whole whenever in
theorem not_silent_of_when : ¬ SilentLine line := by
  have first := congrArg (List.take 1) (sameLetters_iff.mp whenever)
  cases keyword with
  | nil => simp [lower] at first
  | cons c keyword =>
      have letter : c.toLower = 'w' := by simpa [lower] using first
      subst whole
      rintro (nothing | ⟨rest', same⟩ | ⟨rest', same⟩)
      · cases nothing
      · obtain rfl : '#' = c := (List.cons.inj same).1
        exact absurd letter (by decide)
      · obtain rfl : '/' = c := (List.cons.inj same).1
        exact absurd letter (by decide)

include whole whenever in
/-- The rule of a line with a condition has what that condition says. -/
theorem saysRule_of_when (parts : WhenParts rest core word) {r : Rule}
    (said : SaysRule n line r) :
    ∃ clauses a, r = .whenever clauses a n ∧ SaysCondition core clauses := by
  cases said with
  | @always a default =>
      obtain ⟨start, _, same, always, -⟩ := defaultLine_iff.mp default
      exact (not_both_keywords (same.symm.trans whole) always whenever).elim
  | @whenever clauses a conditional =>
      obtain ⟨keyword', rest', same, whenever', core', word', parts', meaning, -⟩ :=
        whenLine_iff.mp conditional
      have length : keyword'.length = keyword.length :=
        (length_of_sameLetters whenever').trans (length_of_sameLetters whenever).symm
      obtain ⟨-, rfl⟩ := List.append_inj (same.symm.trans whole) length
      have cores := (splitWhen?_of_whenParts parts').symm.trans (splitWhen?_of_whenParts parts)
      obtain ⟨rfl, -⟩ := Prod.mk.inj (Option.some.inj cores)
      exact ⟨clauses, a, rfl, meaning⟩

end Line

/-- A word `AND` in the condition of a `WHEN` line joins the conditions before and after it, or
the line comes to one mistake and no rule, unless the word is the last one of the condition.
It is refused wherever it stands first or next to another. As the last word it may become part
of a literal, and then the rule never holds. -/
theorem connective_joins_or_is_last {source : String} {i : Nat}
    {text line keyword rest core word before connective after : List Char}
    (there : (lines source.toList)[i]? = some text) (trims : Trims text line)
    (whole : line = keyword ++ rest) (whenever : sameLetters keyword "WHEN".toList = true)
    (parts : WhenParts rest core word) (placed : core = before ++ (connective ++ after))
    (stands : StandsAsWord before connective after) (connects : Connects connective) :
    let n := i + 1
    let rules := (parse source).program.rules.filter fun r => r.line = n
    let mistakes := (parse source).mistakes.filter fun m => m.line = n
    let refused := rules = [] ∧ ∃ problem, mistakes = [⟨n, problem⟩]
    (Dangles before after → refused) ∧
    (refused ∨ ∃ clauses a, rules = [.whenever clauses a n] ∧ mistakes = [] ∧
      ((∃ first later, clauses = first ++ later ∧ first ≠ [] ∧ later ≠ [] ∧
          SaysCondition (trim before) first ∧ SaysCondition (trim after) later) ∨
        (after = [] ∧ EndsInText clauses connective ∧
          ∀ f, (Rule.whenever clauses a n).holds f = false))) := by
  intro n rules mistakes refused
  obtain ⟨rules_eq, mistakes_eq⟩ := parse_at there
  change rules = _ at rules_eq
  change mistakes = _ at mistakes_eq
  rw [readLine_of_statement trims (not_silent_of_when whole whenever)] at rules_eq mistakes_eq
  cases statement : readStatement (i + 1) line with
  | error problem =>
      rw [statement] at rules_eq mistakes_eq
      have bad : refused := ⟨rules_eq, problem, mistakes_eq⟩
      exact ⟨fun _ => bad, .inl bad⟩
  | ok r =>
      rw [statement] at rules_eq mistakes_eq
      have said := (readStatement_eq_ok_iff trims.trimmed).mp statement
      obtain ⟨clauses, a, rfl, meaning⟩ := saysRule_of_when whole whenever parts said
      have trimmed : Trimmed core := parts.trimmed
      have read : readPieces (splitAnd core) = .ok clauses :=
        (readCondition_eq_ok_iff trimmed).mpr meaning
      rw [placed] at read trimmed
      refine ⟨fun dangles => absurd dangles (not_dangles stands connects read trimmed),
        .inr ⟨clauses, a, rules_eq, mistakes_eq, ?_⟩⟩
      by_cases last : after = []
      · have ends := endsInText_of_last stands connects read last
        exact .inr ⟨last, ends, ends.never_holds a n⟩
      · obtain ⟨first, later, front, back, joined⟩ := exists_join stands connects read last
        obtain ⟨some, meant⟩ := saysCondition_trim front
        obtain ⟨some', meant'⟩ := saysCondition_trim back
        exact .inl ⟨first, later, joined.symm, some, some', meant, meant'⟩

/-- What follows `WHEN` with single blanks between its parts. -/
theorem whenParts_spaced {core word : List Char} (trimmed : Trimmed core) (present : core ≠ [])
    (isWord : isWord word = true) :
    WhenParts (' ' :: (core ++ (" DO ".toList ++ word))) core word := by
  have gap : Gap [' '] := ⟨by simp, by simp [Blanks]; decide⟩
  exact ⟨[' '], core, [' '], "DO".toList, [' '], rfl, gap, ⟨trimmed.trims, present⟩, gap,
    by decide, gap, isWord⟩

/-- A word between two conditions joins them, in small letters as well. -/
theorem small_connective_joins :
    let rules := (parse "WHEN my_hp < 5 and i_am_faster DO ram").program.rules
    ∃ first later a, rules.filter (fun r => r.line = 1) = [.whenever (first ++ later) a 1] ∧
      SaysCondition "my_hp < 5".toList first ∧ SaysCondition "i_am_faster".toList later := by
  intro rules
  have found : rules.filter (fun r => r.line = 1) ≠ [] := by decide +kernel
  have there : (lines "WHEN my_hp < 5 and i_am_faster DO ram".toList)[0]? =
      some "WHEN my_hp < 5 and i_am_faster DO ram".toList := by decide +kernel
  have trims : Trims "WHEN my_hp < 5 and i_am_faster DO ram".toList
      ("WHEN".toList ++ " my_hp < 5 and i_am_faster DO ram".toList) :=
    Trimmed.trims (by decide)
  have trimmed : Trimmed "my_hp < 5 and i_am_faster".toList := by decide
  have isWord : isWord "ram".toList = true := by decide
  have parts : WhenParts " my_hp < 5 and i_am_faster DO ram".toList _ _ :=
    whenParts_spaced trimmed (by decide) isWord
  have stands : StandsAsWord "my_hp < 5 ".toList "and".toList " i_am_faster".toList := by
    decide
  have outcome :=
    (connective_joins_or_is_last there trims rfl (by decide) parts rfl stands (by decide)).2
  obtain ⟨none, -⟩ | ⟨_, a, rules_eq, -, ⟨first, later, rfl, -, -, front, back⟩ | ⟨last, -⟩⟩ :=
    outcome
  · exact absurd none found
  · exact ⟨first, later, a, rules_eq, front, back⟩
  · cases last

/-- A word after the last clause is swallowed: it becomes part of the literal, and the line
comes to a rule and no mistake. -/
theorem last_connective_swallowed :
    let before := "my_hp < 5 ".toList
    let parsed := parse "WHEN my_hp < 5 AND DO attack"
    WhenParts " my_hp < 5 AND DO attack".toList (before ++ "AND".toList) "attack".toList ∧
      StandsAsWord before "AND".toList [] ∧ Connects "AND".toList ∧
      parsed.program.rules =
        [.whenever [⟨.myHp, .less, .text "5 AND".toList⟩] .attack 1] ∧
      parsed.mistakes = [] := by
  refine ⟨?_, by decide, by decide, by decide +kernel, by decide +kernel⟩
  have trimmed : Trimmed "my_hp < 5 AND".toList := by decide
  have isWord : isWord "attack".toList = true := by decide
  exact whenParts_spaced trimmed (by decide) isWord

end RobotCombat.Script
