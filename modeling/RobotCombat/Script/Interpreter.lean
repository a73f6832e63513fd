/-
# RobotCombat.Script.Interpreter — which action a program selects

A rule holds if all its clauses do, a default rule always. The first rule that
holds decides; if none does, the fighter approaches and no rule is named. A fact
is a number or a truth value. Numbers compare with numbers under every operator,
truth values with truth values under equality alone, and all else is false.
-/
import RobotCombat.Script.Syntax

namespace RobotCombat.Script

set_option autoImplicit false

/-- What a fighter knows in one tick. -/
structure Facts where
  distanceToEnemy : Float32
  myHp : Float32
  myHpPercent : Float32
  enemyHp : Float32
  enemyHpPercent : Float32
  mySpeed : Float32
  enemySpeed : Float32
  myWeight : Float32
  enemyWeight : Float32
  distanceToWall : Float32
  distanceToCenter : Float32
  enemyIsSpinning : Bool
  deriving DecidableEq, Repr

/-- The facts of nothing: every number zero. -/
def Facts.blank : Facts := ⟨0, 0, 0, 0, 0, 0, 0, 0, 0, 0, 0, false⟩

/-- The value of a fact. -/
inductive Value where
  | number (x : Float32)
  | bool (b : Bool)
  deriving DecidableEq, Repr

/-- The value of a variable. -/
def Facts.value (f : Facts) : Variable → Value
  | .distanceToEnemy => .number f.distanceToEnemy
  | .myHp => .number f.myHp
  | .myHpPercent => .number f.myHpPercent
  | .enemyHp => .number f.enemyHp
  | .enemyHpPercent => .number f.enemyHpPercent
  | .mySpeed => .number f.mySpeed
  | .enemySpeed => .number f.enemySpeed
  | .myWeight => .number f.myWeight
  | .enemyWeight => .number f.enemyWeight
  | .distanceToWall => .number f.distanceToWall
  | .distanceToCenter => .number f.distanceToCenter
  | .enemyIsSpinning => .bool f.enemyIsSpinning
  | .iAmFaster => .bool (f.enemySpeed < f.mySpeed)
  | .iAmHeavier => .bool (f.enemyWeight < f.myWeight)

/-- A comparison of numbers. -/
def Operator.holdsOfNumbers (x y : Float32) : Operator → Bool
  | .less => x < y
  | .greater => y < x
  | .atMost => x ≤ y
  | .atLeast => y ≤ x
  | .equal => x == y
  | .unequal => x != y

/-- A comparison of truth values. -/
def Operator.holdsOfBools (a b : Bool) : Operator → Bool
  | .equal => a == b
  | .unequal => a != b
  | _ => false

/-- Whether a clause holds. -/
def Clause.holds (f : Facts) (c : Clause) : Bool :=
  match f.value c.subject, c.literal with
  | .number x, .number y => c.operator.holdsOfNumbers x y
  | .bool a, .bool b => c.operator.holdsOfBools a b
  | _, _ => false

/-- Whether a rule holds. -/
def Rule.holds (f : Facts) : Rule → Bool
  | .whenever clauses _ _ => clauses.all (·.holds f)
  | .always .. => true

/-- The selected action and the place of the rule that named it. -/
structure Selection where
  action : Action
  rule : Option Nat
  deriving DecidableEq, Repr

/-- The selection of the first rule that holds, where `place` is the place of the
first rule. -/
def selectFrom (f : Facts) (place : Nat) : List Rule → Selection
  | [] => ⟨.fallback, none⟩
  | rule :: rules =>
    if rule.holds f then ⟨rule.action, some place⟩ else selectFrom f (place + 1) rules

/-- The selection of a program. -/
def Program.select (p : Program) (f : Facts) : Selection :=
  selectFrom f 0 p.rules

/-- The action of a program. -/
def Program.act (p : Program) (f : Facts) : Action :=
  (p.select f).action

end RobotCombat.Script
