/-
# RobotCombat.Script.Exchange — programs and facts as documents
-/
import RobotCombat.Script.Interpreter
import RobotCombat.Script.Parser
import RobotCombat.Json.Field

namespace RobotCombat.Script

set_option autoImplicit false

open Json (Record asText? asBool? asSingle? asCount? asList? asChoice? asTagged?)

namespace Action

def toJson (a : Action) : Json := .text a.name

def ofJson? (j : Json) : Option Action :=
  (asChoice? j).bind fun name => all.find? fun a => a.name = name

end Action

namespace Variable

def toJson (v : Variable) : Json := .text v.name

def ofJson? (j : Json) : Option Variable :=
  (asChoice? j).bind fun name => all.find? fun v => v.name = name

end Variable

namespace Operator

def all : List Operator := [.less, .greater, .atMost, .atLeast, .equal, .unequal]

def tag : Operator → String
  | .less => "Lt"
  | .greater => "Gt"
  | .atMost => "Le"
  | .atLeast => "Ge"
  | .equal => "Eq"
  | .unequal => "Ne"

def toJson (o : Operator) : Json := .text o.tag

def ofJson? (j : Json) : Option Operator :=
  (asChoice? j).bind fun tag => all.find? fun o => o.tag = tag

end Operator

namespace Literal

def toJson : Literal → Json
  | .number x => .record [("Number", .single x)]
  | .bool b => .record [("Bool", .bool b)]
  | .text s => .record [("Text", .text (String.ofList s))]

def ofJson? (j : Json) : Option Literal :=
  match asTagged? j with
  | some (key, value) =>
    if key = "Number" then (asSingle? value).map .number
    else if key = "Bool" then (asBool? value).map .bool
    else if key = "Text" then (asText? value).map fun s => .text s.toList
    else none
  | none => none

end Literal

namespace Clause

def fields : List String := ["variable", "op", "value"]

def toJson (c : Clause) : Json :=
  .record [("variable", c.subject.toJson), ("op", c.operator.toJson), ("value", c.literal.toJson)]

def ofJson? (j : Json) : Option Clause := do
  let r ← Record.read? fields j
  let subject ← r.required "variable" Variable.ofJson?
  let operator ← r.required "op" Operator.ofJson?
  let literal ← r.required "value" Literal.ofJson?
  pure ⟨subject, operator, literal⟩

end Clause

namespace Rule

def whenFields : List String := ["clauses", "action", "line"]

def defaultFields : List String := ["action", "line"]

def toJson : Rule → Json
  | .whenever clauses action line =>
    .record [("When", .record [("clauses", .list Clause.toJson clauses),
      ("action", action.toJson), ("line", .count line)])]
  | .always action line =>
    .record [("Default", .record [("action", action.toJson), ("line", .count line)])]

def wheneverOfJson? (j : Json) : Option Rule := do
  let r ← Record.read? whenFields j
  let clauses ← r.required "clauses" (asList? Clause.ofJson?)
  let action ← r.required "action" Action.ofJson?
  let line ← r.required "line" (asCount? UInt64.size)
  pure (.whenever clauses action line)

def alwaysOfJson? (j : Json) : Option Rule := do
  let r ← Record.read? defaultFields j
  let action ← r.required "action" Action.ofJson?
  let line ← r.required "line" (asCount? UInt64.size)
  pure (.always action line)

def ofJson? (j : Json) : Option Rule :=
  match asTagged? j with
  | some (key, value) =>
    if key = "When" then wheneverOfJson? value
    else if key = "Default" then alwaysOfJson? value
    else none
  | none => none

end Rule

namespace Program

def fields : List String := ["rules"]

def toJson (p : Program) : Json :=
  .record [("rules", .list Rule.toJson p.rules)]

def ofJson? (j : Json) : Option Program := do
  let r ← Record.read? fields j
  let rules ← r.required "rules" (asList? Rule.ofJson?)
  pure ⟨rules⟩

end Program

namespace Facts

def fields : List String :=
  ["distanceToEnemy", "myHp", "myHpPercent", "enemyHp", "enemyHpPercent", "mySpeed", "enemySpeed",
    "myWeight", "enemyWeight", "distanceToWall", "distanceToCenter", "enemyIsSpinning"]

def toJson (f : Facts) : Json :=
  .record [("distanceToEnemy", .single f.distanceToEnemy), ("myHp", .single f.myHp),
    ("myHpPercent", .single f.myHpPercent), ("enemyHp", .single f.enemyHp),
    ("enemyHpPercent", .single f.enemyHpPercent), ("mySpeed", .single f.mySpeed),
    ("enemySpeed", .single f.enemySpeed), ("myWeight", .single f.myWeight),
    ("enemyWeight", .single f.enemyWeight), ("distanceToWall", .single f.distanceToWall),
    ("distanceToCenter", .single f.distanceToCenter), ("enemyIsSpinning", .bool f.enemyIsSpinning)]

/-- Facts whose numbers and truth value are found by the given readers. -/
def read? (number : String → Option Float32) (truth : String → Option Bool) : Option Facts := do
  let distanceToEnemy ← number "distanceToEnemy"
  let myHp ← number "myHp"
  let myHpPercent ← number "myHpPercent"
  let enemyHp ← number "enemyHp"
  let enemyHpPercent ← number "enemyHpPercent"
  let mySpeed ← number "mySpeed"
  let enemySpeed ← number "enemySpeed"
  let myWeight ← number "myWeight"
  let enemyWeight ← number "enemyWeight"
  let distanceToWall ← number "distanceToWall"
  let distanceToCenter ← number "distanceToCenter"
  let enemyIsSpinning ← truth "enemyIsSpinning"
  pure ⟨distanceToEnemy, myHp, myHpPercent, enemyHp, enemyHpPercent, mySpeed, enemySpeed,
    myWeight, enemyWeight, distanceToWall, distanceToCenter, enemyIsSpinning⟩

/-- All facts, every one of them given. -/
def ofJson? (j : Json) : Option Facts := do
  let r ← Record.read? fields j
  read? (fun name => r.required name asSingle?) (fun name => r.required name asBool?)

/-- The facts that are given, over those of nothing. -/
def ofPartialJson? (j : Json) : Option Facts := do
  let r ← Record.read? fields j
  read? (fun name => r.withDefault name asSingle? 0) (fun name => r.withDefault name asBool? false)

end Facts

end RobotCombat.Script
