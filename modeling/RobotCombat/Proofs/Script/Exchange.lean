/-
# RobotCombat.Proofs.Script.Exchange — programs come back from their documents

The choices of the language (actions, variables, comparisons) have names of their own, a
literal and a rule are told apart by the name over their content.

* `Program.ofJson?_toJson`: a portable program is the one that is decoded from its
  document.
-/
import RobotCombat.Proofs.Json.Recovery
import RobotCombat.Script.Exchange

namespace RobotCombat.Script

set_option autoImplicit false

open Json

namespace Action

@[simp]
theorem wellFormed_toJson (a : Action) : WellFormed a.toJson := by simp [toJson]

@[simp]
theorem ofJson?_toJson (a : Action) : ofJson? a.toJson = some a := by
  cases a <;> decide

end Action

namespace Variable

@[simp]
theorem wellFormed_toJson (v : Variable) : WellFormed v.toJson := by simp [toJson]

@[simp]
theorem ofJson?_toJson (v : Variable) : ofJson? v.toJson = some v := by
  cases v <;> decide

end Variable

namespace Operator

@[simp]
theorem wellFormed_toJson (o : Operator) : WellFormed o.toJson := by simp [toJson]

@[simp]
theorem ofJson?_toJson (o : Operator) : ofJson? o.toJson = some o := by
  cases o <;> decide

end Operator

namespace Literal

def Portable : Literal → Prop
  | .number x => Exact x
  | .bool _ => True
  | .text _ => True

instance : ∀ l : Literal, Decidable l.Portable
  | .number x => inferInstanceAs (Decidable (Exact x))
  | .bool _ => inferInstanceAs (Decidable True)
  | .text _ => inferInstanceAs (Decidable True)

@[simp]
theorem wellFormed_toJson (l : Literal) : WellFormed l.toJson := by
  cases l <;> simp [toJson]

theorem ofJson?_toJson {l : Literal} (portable : l.Portable) : ofJson? l.toJson = some l := by
  cases l with
  | number x => simp [ofJson?, toJson, asSingle?_single portable]
  | bool b => simp [ofJson?, toJson]
  | text s => simp [ofJson?, toJson]

end Literal

namespace Clause

@[mk_iff]
structure Portable (c : Clause) : Prop where
  literal : c.literal.Portable

instance (c : Clause) : Decidable c.Portable := decidable_of_iff _ (portable_iff c).symm

@[simp]
theorem wellFormed_toJson (c : Clause) : WellFormed c.toJson := by simp [toJson]

theorem ofJson?_toJson {c : Clause} (portable : c.Portable) : ofJson? c.toJson = some c := by
  rw [ofJson?, toJson, Record.read?_record]
  · simp [Record.required, Literal.ofJson?_toJson portable.literal]
  · exact .refl _
  · decide

end Clause

namespace Rule

def Portable : Rule → Prop
  | .whenever clauses _ line => (∀ c ∈ clauses, c.Portable) ∧ line < UInt64.size
  | .always _ line => line < UInt64.size

instance : ∀ r : Rule, Decidable r.Portable
  | .whenever _ _ _ => inferInstanceAs (Decidable (_ ∧ _))
  | .always _ line => inferInstanceAs (Decidable (line < UInt64.size))

@[simp]
theorem wellFormed_toJson (r : Rule) : WellFormed r.toJson := by
  cases r <;> simp [toJson]

theorem ofJson?_toJson {r : Rule} (portable : r.Portable) : ofJson? r.toJson = some r := by
  cases r with
  | whenever clauses action line =>
      obtain ⟨each, fits⟩ := portable
      have condition : asList? Clause.ofJson? (list Clause.toJson clauses) = some clauses :=
        asList?_list fun c member => Clause.ofJson?_toJson (each c member)
      have content : wheneverOfJson? (record [("clauses", list Clause.toJson clauses),
          ("action", action.toJson), ("line", count line)]) =
            some (.whenever clauses action line) := by
        rw [wheneverOfJson?, Record.read?_record]
        · simp [Record.required, condition, asCount?_count le_rfl fits]
        · exact .refl _
        · decide
      simp [ofJson?, toJson, content]
  | always action line =>
      have content : alwaysOfJson? (record [("action", action.toJson), ("line", count line)]) =
          some (.always action line) := by
        rw [alwaysOfJson?, Record.read?_record]
        · simp [Record.required, asCount?_count le_rfl portable]
        · exact .refl _
        · decide
      simp [ofJson?, toJson, content]

end Rule

namespace Program

@[mk_iff]
structure Portable (p : Program) : Prop where
  rules : ∀ r ∈ p.rules, r.Portable

instance (p : Program) : Decidable p.Portable := decidable_of_iff _ (portable_iff p).symm

@[simp]
theorem wellFormed_toJson (p : Program) : WellFormed p.toJson := by simp [toJson]

theorem ofJson?_toJson {p : Program} (portable : p.Portable) : ofJson? p.toJson = some p := by
  have rules : asList? Rule.ofJson? (list Rule.toJson p.rules) = some p.rules :=
    asList?_list fun r member => Rule.ofJson?_toJson (portable.rules r member)
  rw [ofJson?, toJson, Record.read?_record]
  · simp [Record.required, rules]
  · exact .refl _
  · decide

end Program

end RobotCombat.Script
