/-
# RobotCombat.Script.Parser — scripts read line by line

Every line stands for itself. Blank lines and lines that start with `#` or `//`
say nothing. Every other line is a statement, and is read as a rule or refused
with one problem:

* `DEFAULT <action>`;
* `WHEN <condition> DO <action>`, where the action is the last word of the line
  and `DO` the word before it. The condition is cut at each word `AND` that is
  neither its first nor its last word; each piece is a variable alone, or a
  variable, an operator and a literal.

Keywords, actions and variables are read in any letter case.
-/
import RobotCombat.Script.Syntax

namespace RobotCombat.Script

set_option autoImplicit false

open Text

/-- Why a line is refused. -/
inductive Problem where
  | unknownStatement
  | badDefault
  | badWhen
  | unknownAction (word : List Char)
  | badCondition (piece : List Char)
  | unknownVariable (name : List Char)
  deriving DecidableEq, Repr

/-- The problem in words. -/
def Problem.message : Problem → String
  | .unknownStatement => "Unknown statement. Use WHEN or DEFAULT."
  | .badDefault => "Invalid DEFAULT syntax. Use: DEFAULT <action>"
  | .badWhen => "Invalid WHEN syntax. Use: WHEN <condition> DO <action>"
  | .unknownAction word => "Unknown action \"" ++ String.ofList (lower word) ++ "\""
  | .badCondition piece => "Invalid condition \"" ++ String.ofList piece ++ "\""
  | .unknownVariable name => "Unknown variable \"" ++ String.ofList (lower name) ++ "\""

/-- A refused line. -/
structure Mistake where
  line : Nat
  problem : Problem
  deriving DecidableEq, Repr

/-- The mistake with its line in front. -/
def Mistake.report (m : Mistake) : String :=
  "Line " ++ toString m.line ++ ": " ++ m.problem.message

/-- What a script comes to: the rules of its good lines and the mistakes of its
bad ones, both in order. -/
structure Parsed where
  program : Program
  mistakes : List Mistake
  deriving DecidableEq, Repr

/-- The operator at the head of a text, the longer one first, and what follows. -/
def splitOperator? : List Char → Option (Operator × List Char)
  | '<' :: '=' :: rest => some (.atMost, rest)
  | '>' :: '=' :: rest => some (.atLeast, rest)
  | '=' :: '=' :: rest => some (.equal, rest)
  | '!' :: '=' :: rest => some (.unequal, rest)
  | '<' :: rest => some (.less, rest)
  | '>' :: rest => some (.greater, rest)
  | _ => none

/-- One piece of a condition, without blanks around it. -/
def readClause (piece : List Char) : Except Problem Clause :=
  let name := piece.takeWhile isWordChar
  let after := piece.dropWhile isWordChar
  if name.isEmpty then .error (.badCondition piece)
  else
    match splitOperator? (trimStart after) with
    | none =>
      match after, Variable.ofWord? name with
      | [], some v => .ok (.isTrue v)
      | _, _ => .error (.badCondition piece)
    | some (operator, rest) =>
      let value := trim rest
      if value.isEmpty then .error (.badCondition piece)
      else
        match Variable.ofWord? name with
        | none => .error (.unknownVariable name)
        | some v => .ok ⟨v, operator, .ofText value⟩

/-- Puts a character in front of the first piece. -/
def consFirst (c : Char) : List (List Char) → List (List Char)
  | piece :: pieces => (c :: piece) :: pieces
  | [] => [[c]]

/-- A condition cut at each word `AND` with a blank on both sides. -/
def splitAnd : List Char → List (List Char)
  | [] => [[]]
  | c :: rest =>
    let word := rest.takeWhile fun c => !isBlank c
    let after := rest.dropWhile fun c => !isBlank c
    if isBlank c && sameLetters word "AND".toList && !after.isEmpty then [c] :: splitAnd after
    else consFirst c (splitAnd rest)
termination_by text => text.length
decreasing_by
  · exact Nat.lt_succ_of_le (List.dropWhile_suffix _).length_le
  · simp

/-- The clauses of a condition, or the first problem among its pieces. -/
def readCondition (condition : List Char) : Except Problem (List Clause) :=
  (splitAnd condition).mapM fun piece => readClause (trim piece)

/-- The condition and the action word of what follows `WHEN`. -/
def splitWhen? (rest : List Char) : Option (List Char × List Char) :=
  if startsBlank rest then
    let (head, action) := splitLast (trim rest)
    let (condition, keyword) := splitLast (trimEnd head)
    let condition := trim condition
    if isWord action && sameLetters keyword "DO".toList && !condition.isEmpty then
      some (condition, action)
    else none
  else none

/-- The action of a word. -/
def readAction (word : List Char) : Except Problem Action :=
  match Action.ofWord? word with
  | some action => .ok action
  | none => .error (.unknownAction word)

/-- What follows `DEFAULT`. -/
def readDefault (line : Nat) (rest : List Char) : Except Problem Rule := do
  let word := trim rest
  if startsBlank rest && isWord word then
    let action ← readAction word
    pure (.always action line)
  else throw .badDefault

/-- What follows `WHEN`. -/
def readWhen (line : Nat) (rest : List Char) : Except Problem Rule := do
  match splitWhen? rest with
  | none => throw .badWhen
  | some (condition, word) =>
    let action ← readAction word
    let clauses ← readCondition condition
    pure (.whenever clauses action line)

/-- A statement without blanks around it. -/
def readStatement (line : Nat) (text : List Char) : Except Problem Rule :=
  match dropKeyword? "DEFAULT".toList text with
  | some rest => readDefault line rest
  | none =>
    match dropKeyword? "WHEN".toList text with
    | some rest => readWhen line rest
    | none => .error .unknownStatement

/-- Whether a line without blanks around it says nothing. -/
def isSilent (text : List Char) : Bool :=
  text.isEmpty || startsWith text ['#'] || startsWith text ['/', '/']

/-- What one line of a script comes to. -/
inductive LineResult where
  | silent
  | rule (r : Rule)
  | mistake (m : Mistake)
  deriving DecidableEq, Repr

/-- Reads the line with a number. -/
def readLine (line : Nat) (text : List Char) : LineResult :=
  let text := trim text
  if isSilent text then .silent
  else
    match readStatement line text with
    | .ok rule => .rule rule
    | .error problem => .mistake ⟨line, problem⟩

/-- Reads lines numbered from `line` on. -/
def readLines (line : Nat) : List (List Char) → List LineResult
  | [] => []
  | text :: texts => readLine line text :: readLines (line + 1) texts

/-- The rule of a line, if it is one. -/
def LineResult.rule? : LineResult → Option Rule
  | .rule r => some r
  | _ => none

/-- The mistake of a line, if it is one. -/
def LineResult.mistake? : LineResult → Option Mistake
  | .mistake m => some m
  | _ => none

/-- Reads a script. -/
def parse (source : String) : Parsed :=
  let results := readLines 1 (lines source.toList)
  ⟨⟨results.filterMap LineResult.rule?⟩, results.filterMap LineResult.mistake?⟩

/-- The lines of the script that new fighters start with. -/
def starterLines : List String :=
  ["# Rules are checked top-to-bottom, first match wins",
   "",
   "# Back off when badly hurt",
   "WHEN my_hp_percent < 20 DO retreat",
   "",
   "# Close range: go for it",
   "WHEN distance_to_enemy < 80 DO attack",
   "",
   "# Use the weight advantage",
   "WHEN i_am_heavier AND distance_to_enemy < 150 DO ram",
   "",
   "# Use the speed advantage",
   "WHEN i_am_faster DO circle_left",
   "",
   "DEFAULT approach"]

/-- The script that new fighters start with. -/
def starter : String :=
  String.join (starterLines.map fun line => line ++ "\n")

end RobotCombat.Script
