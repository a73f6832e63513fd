/-
# RobotCombat.CommandLine.Arguments — the words of a command line

A command is a name followed by operands and options in any order. An option
starts with two dashes. Its value, if it takes one, follows an equals sign or is
the next word, which then must not look like an option; a single dash does not.
No option may stand twice, and after a word of two dashes every word is an
operand. A log level may be set before the name or after it.
-/
import RobotCombat.Match.Config
import RobotCombat.Number.Literal
import RobotCombat.Text.Blank

namespace RobotCombat.CommandLine

set_option autoImplicit false

/-- The options that a command knows. -/
structure Known where
  flags : List String
  valued : List String

/-- Options and operands as found. A flag has no value. -/
structure Words where
  options : List (String × Option String)
  operands : List String
  deriving DecidableEq, Repr

namespace Words

def none : Words := ⟨[], []⟩

/-- Whether an option is set. -/
def has (w : Words) (name : String) : Bool :=
  w.options.any fun o => o.1 = name

/-- The value of an option. -/
def value? (w : Words) (name : String) : Option String :=
  (w.options.lookup name).join

/-- Sets an option that is not set. -/
def set? (w : Words) (name : String) (value : Option String) : Option Words :=
  if w.has name then .none else some { w with options := w.options ++ [(name, value)] }

end Words

/-- Whether a word cannot be an operand or a value. -/
def looksLikeOption (word : String) : Bool :=
  match word.toList with
  | '-' :: _ :: _ => true
  | _ => false

/-- The name of an option and the value attached to it. -/
def splitOption (word : String) : String × Option String :=
  let name := word.toList.takeWhile (· ≠ '=')
  match word.toList.dropWhile (· ≠ '=') with
  | _ :: value => (String.ofList name, some (String.ofList value))
  | [] => (word, none)

/-- Sorts words into options and operands; none if an option is unknown, stands
twice, lacks its value or has one that it does not take. -/
def readWords (known : Known) (w : Words) : List String → Option Words
  | [] => some w
  | word :: rest =>
    let (name, attached) := splitOption word
    if word = "--" then some { w with operands := w.operands ++ rest }
    else if !looksLikeOption word then
      readWords known { w with operands := w.operands ++ [word] } rest
    else if known.flags.contains name && attached.isNone then
      (w.set? name none).bind fun w => readWords known w rest
    else if known.valued.contains name then
      match attached, rest with
      | some value, rest => (w.set? name (some value)).bind fun w => readWords known w rest
      | none, value :: rest =>
        if looksLikeOption value then none
        else (w.set? name (some value)).bind fun w => readWords known w rest
      | none, [] => none
    else none

/-- Changes to a battle file. -/
structure Overrides where
  arena : Option String
  seed : Option UInt64
  narration : Option NarrationSettings
  deriving DecidableEq, Repr

/-- What the program is asked to do. -/
inductive Command where
  | run (battle : String) (overrides : Overrides) (frames pretty : Bool)
  | series (battle : String) (overrides : Overrides) (runs : Nat) (pretty : Bool)
  | check (script : String)
  | catalog (path : Option String)
  deriving DecidableEq, Repr

/-- A count below a limit in decimal digits, with an optional plus sign. -/
def readCount? (limit : Nat) (text : String) : Option Nat :=
  let digits := match text.toList with
    | '+' :: rest => rest
    | characters => characters
  if !digits.isEmpty && digits.all Number.isDigit then
    let n := Number.digitsValue digits
    if n < limit then some n else none
  else none

/-- A path, which is not empty. -/
def readPath? (text : String) : Option String :=
  if text.isEmpty then none else some text

/-- A way to narrate. -/
def readMode? (text : String) : Option NarrationSettings :=
  if text = "broadcast" then some .broadcast
  else if text = "live" then some .live
  else none

namespace Words

/-- The value of an option, read in some way; `some none` if it is not set. -/
def read? {α : Type} (w : Words) (name : String) (read : String → Option α) :
    Option (Option α) :=
  match w.value? name with
  | some text => (read text).map some
  | .none => some .none

/-- The only operand, as a path. -/
def onlyPath? (w : Words) : Option String :=
  match w.operands with
  | [path] => readPath? path
  | _ => .none

def overrides? (w : Words) : Option Overrides := do
  let seed ← w.read? "--seed" (readCount? UInt64.size)
  let narration ← w.read? "--mode" readMode?
  pure ⟨w.value? "--arena", seed.map UInt64.ofNat, narration⟩

end Words

namespace Command

/-- The option that every command knows. It changes nothing that a command
prints. -/
def logLevel : String := "--log-level"

def runOptions : Known :=
  ⟨["--frames", "--pretty"], [logLevel, "--arena", "--seed", "--mode"]⟩

def seriesOptions : Known :=
  ⟨["--pretty"], [logLevel, "--arena", "--seed", "--mode", "--runs"]⟩

def checkOptions : Known := ⟨[], [logLevel]⟩

def catalogOptions : Known := ⟨[], [logLevel, "--catalog"]⟩

def ofRun? (words : List String) : Option Command := do
  let w ← readWords runOptions .none words
  let battle ← w.onlyPath?
  let overrides ← w.overrides?
  pure (.run battle overrides (w.has "--frames") (w.has "--pretty"))

def ofSeries? (words : List String) : Option Command := do
  let w ← readWords seriesOptions .none words
  let battle ← w.onlyPath?
  let overrides ← w.overrides?
  let runs ← w.read? "--runs" (readCount? UInt64.size)
  pure (.series battle overrides (runs.getD 100) (w.has "--pretty"))

def ofCheck? (words : List String) : Option Command := do
  let w ← readWords checkOptions .none words
  let script ← w.onlyPath?
  pure (.check script)

def ofCatalog? (words : List String) : Option Command := do
  let w ← readWords catalogOptions .none words
  let path ← w.read? "--catalog" readPath?
  if w.operands.isEmpty then pure (.catalog path) else none

/-- The words from the name of the command on. -/
def afterLogLevel? (words : List String) : Option (List String) :=
  match words with
  | [] => some []
  | word :: rest =>
    let (name, attached) := splitOption word
    if name = logLevel then
      match attached, rest with
      | some _, rest => some rest
      | none, value :: rest => if looksLikeOption value then none else some rest
      | none, [] => none
    else some (word :: rest)

/-- The command that the words ask for. -/
def ofWords? (words : List String) : Option Command :=
  match afterLogLevel? words with
  | some (name :: rest) =>
    if name = "run" then ofRun? rest
    else if name = "series" then ofSeries? rest
    else if name = "check" then ofCheck? rest
    else if name = "catalog" then ofCatalog? rest
    else none
  | _ => none

end Command

end RobotCombat.CommandLine
