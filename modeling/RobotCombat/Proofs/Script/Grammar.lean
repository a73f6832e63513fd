/-
# RobotCombat.Proofs.Script.Grammar — the lines of the script language

The language by what may stand where, without a word on how a line is read. A text
is described by the pieces it consists of: a keyword, a gap of blanks, a condition,
and so on. Letter case is free in keywords, facts and actions.

* `DefaultLine`: `DEFAULT` and an action;
* `WhenLine`: `WHEN`, a condition, `DO` and an action;
* `Cut`: a condition in its pieces, cut at every word `AND` but its first and last word;
* `Cut.unique`: a condition is cut in one way only;
* `SaysClause`: a piece is a fact alone, or a fact, a comparison and a text.
-/
import Mathlib.Data.List.Forall2
import RobotCombat.Proofs.Text.Words
import RobotCombat.Script.Parser

namespace RobotCombat.Script

set_option autoImplicit false

open Text

/-! ## Words of the language -/

/-- Whether a word names an action. -/
def Action.Names (a : Action) (word : List Char) : Prop :=
  sameLetters a.name.toList word = true

/-- Whether a word names a fact. -/
def Variable.Names (v : Variable) (word : List Char) : Prop :=
  sameLetters v.name.toList word = true

/-- How a comparison is written. -/
def Operator.symbol : Operator → List Char
  | .less => ['<']
  | .greater => ['>']
  | .atMost => ['<', '=']
  | .atLeast => ['>', '=']
  | .equal => ['=', '=']
  | .unequal => ['!', '=']

/-- Whether a comparison is the one that a text starts with, no longer one being
written there. -/
def Operator.Starts (o : Operator) (text : List Char) : Prop :=
  o.symbol <+: text ∧ ∀ o' : Operator, o'.symbol <+: text → o'.symbol.length ≤ o.symbol.length

/-- Blanks between two parts of a line, at least one. -/
def Gap (text : List Char) : Prop := text ≠ [] ∧ Blanks text

/-! ## Conditions -/

/-- One piece of a condition without the blanks around it: a fact, which then has to
be true, or a fact compared with a literal. -/
inductive SaysClause : List Char → Clause → Prop
  | fact {name : List Char} {v : Variable} (named : v.Names name) :
      SaysClause name (.isTrue v)
  | comparison {name gap rest value : List Char} {v : Variable} {o : Operator}
      (named : v.Names name) (blanks : Blanks gap) (longest : o.Starts (o.symbol ++ rest))
      (trims : Trims rest value) (present : value ≠ []) :
      SaysClause (name ++ gap ++ (o.symbol ++ rest)) ⟨v, o, .ofText value⟩

/-- A word `AND` that separates what stands before it in a condition from what stands
after it: it is neither the first word nor the last. -/
structure Separates (before keyword after : List Char) : Prop where
  word : StandsAsWord before keyword after
  connects : sameLetters keyword "AND".toList = true
  notFirst : ∃ c ∈ before, isBlank c = false
  notLast : ∃ c ∈ after, isBlank c = false

/-- The rest of a condition after what stands before it, in pieces: no separating
word is left in a piece, and there is one after every piece but the last. -/
inductive Cut : List Char → List Char → List (List Char) → Prop
  | whole {before text : List Char}
      (uncut : ∀ p keyword q, text = p ++ keyword ++ q → ¬ Separates (before ++ p) keyword q) :
      Cut before text [text]
  | next {before piece keyword rest : List Char} {pieces : List (List Char)}
      (separates : Separates (before ++ piece) keyword rest)
      (uncut : ∀ p k q, piece = p ++ k ++ q →
        ¬ Separates (before ++ p) k (q ++ (keyword ++ rest)))
      (later : Cut (before ++ piece ++ keyword) rest pieces) :
      Cut before (piece ++ (keyword ++ rest)) (piece :: pieces)

namespace Cut

variable {before piece piece' keyword keyword' rest rest' : List Char}

/-- Of two ways to cut a text the first cut of the one is not before that of the
other. -/
theorem not_earlier (same : piece ++ (keyword ++ rest) = piece' ++ (keyword' ++ rest'))
    (separates : Separates (before ++ piece) keyword rest)
    (separates' : Separates (before ++ piece') keyword' rest')
    (uncut' : ∀ p k q, piece' = p ++ k ++ q →
      ¬ Separates (before ++ p) k (q ++ (keyword' ++ rest'))) :
    piece'.length ≤ piece.length := by
  by_contra earlier
  rcases List.append_eq_append_iff.mp same with ⟨x, rfl, tail⟩ | ⟨x, rfl, -⟩
  · rcases List.append_eq_append_iff.mp tail with ⟨y, rfl, rfl⟩ | ⟨y, rfl, -⟩
    · exact uncut' piece keyword y (by simp) separates
    -- the piece would end within a word, but a word begins after it
    · rcases List.eq_nil_or_concat x with rfl | ⟨x, c, rfl⟩
      · simp at earlier
      · have blank := separates'.word.starts c (by simp)
        have solid := separates.word.solid c (by simp)
        simp [blank] at solid
  · simp at earlier

/-- The word at the front of a text is found in one way only. -/
theorem word_unique (same : keyword ++ rest = keyword' ++ rest')
    (word : StandsAsWord before keyword rest) (word' : StandsAsWord before keyword' rest') :
    keyword = keyword' ∧ rest = rest' := by
  obtain ⟨taken, dropped⟩ := word.span
  obtain ⟨taken', dropped'⟩ := word'.span
  exact ⟨by rw [← taken, same, taken'], by rw [← dropped, same, dropped']⟩

/-- A condition is cut in one way only. -/
theorem unique {text : List Char} {pieces pieces' : List (List Char)}
    (cut : Cut before text pieces) (cut' : Cut before text pieces') : pieces = pieces' := by
  induction cut generalizing pieces' with
  | whole uncut =>
      cases cut' with
      | whole => rfl
      | @next _ piece keyword rest _ separates _ _ =>
          exact absurd separates (uncut piece keyword rest (by simp))
  | @next before piece keyword rest pieces separates uncut later ih =>
      generalize same : piece ++ (keyword ++ rest) = text at cut'
      cases cut' with
      | whole uncut' =>
          exact absurd separates (uncut' piece keyword rest (by simp [← same]))
      | @next _ piece' keyword' rest' pieces' separates' uncut' later' =>
          have length : piece.length = piece'.length :=
            Nat.le_antisymm (not_earlier same.symm separates' separates uncut)
              (not_earlier same separates separates' uncut')
          obtain ⟨rfl, tail⟩ := List.append_inj same length
          obtain ⟨rfl, rfl⟩ := word_unique tail separates.word separates'.word
          rw [ih later']

end Cut

/-- A condition without the blanks around it, clause by clause. -/
def SaysCondition (condition : List Char) (clauses : List Clause) : Prop :=
  ∃ pieces, Cut [] condition pieces ∧
    List.Forall₂ (fun piece clause => ∃ text, Trims piece text ∧ SaysClause text clause) pieces
      clauses

/-! ## Lines -/

/-- A line that says what to do if nothing else applies. -/
inductive DefaultLine : List Char → Action → Prop
  | intro {keyword gap word : List Char} {a : Action}
      (always : sameLetters keyword "DEFAULT".toList = true) (apart : Gap gap)
      (named : a.Names word) :
      DefaultLine (keyword ++ (gap ++ word)) a

/-- A line that says what to do under a condition. -/
inductive WhenLine : List Char → List Clause → Action → Prop
  | intro {keyword gap condition gap' connective gap'' word core : List Char}
      {clauses : List Clause} {a : Action}
      (whenever : sameLetters keyword "WHEN".toList = true) (apart : Gap gap)
      (present : condition ≠ []) (trims : Trims condition core)
      (meaning : SaysCondition core clauses) (apart' : Gap gap')
      (leads : sameLetters connective "DO".toList = true) (apart'' : Gap gap'')
      (named : a.Names word) :
      WhenLine (keyword ++ (gap ++ (condition ++ (gap' ++ (connective ++ (gap'' ++ word))))))
        clauses a

/-- A line says a rule under its number. -/
inductive SaysRule (n : Nat) (line : List Char) : Rule → Prop
  | always {a : Action} (default : DefaultLine line a) : SaysRule n line (.always a n)
  | whenever {clauses : List Clause} {a : Action} (conditional : WhenLine line clauses a) :
      SaysRule n line (.whenever clauses a n)

theorem saysRule_always_iff {n : Nat} {line : List Char} {a : Action} :
    SaysRule n line (.always a n) ↔ DefaultLine line a :=
  ⟨fun said => by cases said; assumption, .always⟩

theorem saysRule_whenever_iff {n : Nat} {line : List Char} {clauses : List Clause} {a : Action} :
    SaysRule n line (.whenever clauses a n) ↔ WhenLine line clauses a :=
  ⟨fun said => by cases said; assumption, .whenever⟩

/-- A line without blanks around it that says nothing: it is empty or a comment. -/
def SilentLine (line : List Char) : Prop :=
  line = [] ∨ ['#'] <+: line ∨ ['/', '/'] <+: line

end RobotCombat.Script
