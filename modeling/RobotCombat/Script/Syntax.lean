/-
# RobotCombat.Script.Syntax — the strategy language as a tree

A program is a list of rules. A rule has an action and the line it came from; a
`whenever` rule has clauses besides, all of which must hold. A clause compares a
fact about the match with a literal.
-/
import RobotCombat.Text.Blank
import RobotCombat.Number.Literal

namespace RobotCombat.Script

set_option autoImplicit false

/-- Something a fighter can do for one tick. -/
inductive Action where
  | attack
  | retreat
  | circleLeft
  | circleRight
  | ram
  | wait
  | approach
  | fleeToCenter
  | flank
  deriving DecidableEq, Repr, Inhabited

namespace Action

/-- Every action. -/
def all : List Action :=
  [.attack, .retreat, .circleLeft, .circleRight, .ram, .wait, .approach, .fleeToCenter, .flank]

/-- What a fighter does if no rule applies. -/
def fallback : Action := .approach

/-- The word for an action. -/
def name : Action → String
  | .attack => "attack"
  | .retreat => "retreat"
  | .circleLeft => "circle_left"
  | .circleRight => "circle_right"
  | .ram => "ram"
  | .wait => "wait"
  | .approach => "approach"
  | .fleeToCenter => "flee_to_center"
  | .flank => "flank"

/-- The action of a word in any letter case. -/
def ofWord? (word : List Char) : Option Action :=
  all.find? fun a => Text.sameLetters a.name.toList word

end Action

/-- A fact that a script can test. -/
inductive Variable where
  | distanceToEnemy
  | myHp
  | myHpPercent
  | enemyHp
  | enemyHpPercent
  | mySpeed
  | enemySpeed
  | myWeight
  | enemyWeight
  | distanceToWall
  | distanceToCenter
  | enemyIsSpinning
  | iAmFaster
  | iAmHeavier
  deriving DecidableEq, Repr, Inhabited

namespace Variable

/-- Every variable. -/
def all : List Variable :=
  [.distanceToEnemy, .myHp, .myHpPercent, .enemyHp, .enemyHpPercent, .mySpeed, .enemySpeed,
   .myWeight, .enemyWeight, .distanceToWall, .distanceToCenter, .enemyIsSpinning, .iAmFaster,
   .iAmHeavier]

/-- The word for a variable. -/
def name : Variable → String
  | .distanceToEnemy => "distance_to_enemy"
  | .myHp => "my_hp"
  | .myHpPercent => "my_hp_percent"
  | .enemyHp => "enemy_hp"
  | .enemyHpPercent => "enemy_hp_percent"
  | .mySpeed => "my_speed"
  | .enemySpeed => "enemy_speed"
  | .myWeight => "my_weight"
  | .enemyWeight => "enemy_weight"
  | .distanceToWall => "distance_to_wall"
  | .distanceToCenter => "distance_to_center"
  | .enemyIsSpinning => "enemy_is_spinning"
  | .iAmFaster => "i_am_faster"
  | .iAmHeavier => "i_am_heavier"

/-- The variable of a word in any letter case. -/
def ofWord? (word : List Char) : Option Variable :=
  all.find? fun v => Text.sameLetters v.name.toList word

end Variable

/-- A comparison. -/
inductive Operator where
  | less
  | greater
  | atMost
  | atLeast
  | equal
  | unequal
  deriving DecidableEq, Repr, Inhabited

/-- The right-hand side of a clause. -/
inductive Literal where
  | number (x : Float32)
  | bool (b : Bool)
  | text (s : List Char)
  deriving DecidableEq, Repr, Inhabited

/-- A literal as the language reads it: `true` and `false` in small letters are
truth values, a finite decimal numeral is a number, anything else is a text. -/
def Literal.ofText (text : List Char) : Literal :=
  let text := Text.trim text
  if text = "true".toList then .bool true
  else if text = "false".toList then .bool false
  else
    match Number.readSingle? text with
    | some x => .number x
    | none => .text text

/-- A comparison of a fact with a literal. -/
structure Clause where
  subject : Variable
  operator : Operator
  literal : Literal
  deriving DecidableEq, Repr, Inhabited

/-- The clause that a fact alone stands for. -/
def Clause.isTrue (v : Variable) : Clause := ⟨v, .equal, .bool true⟩

/-- One statement of a program. -/
inductive Rule where
  | whenever (clauses : List Clause) (action : Action) (line : Nat)
  | always (action : Action) (line : Nat)
  deriving DecidableEq, Repr, Inhabited

namespace Rule

def action : Rule → Action
  | .whenever _ action _ => action
  | .always action _ => action

/-- The line of the script that holds the rule, counted from one. -/
def line : Rule → Nat
  | .whenever _ _ line => line
  | .always _ line => line

/-- Whether the rule holds in every situation. -/
def isDefault : Rule → Bool
  | .whenever .. => false
  | .always .. => true

end Rule

/-- A list of rules, the first one that holds deciding. -/
structure Program where
  rules : List Rule
  deriving DecidableEq, Repr, Inhabited

end RobotCombat.Script
