/-
# RobotCombat.Main — the command line program

    run BATTLE [--arena ID] [--seed N] [--mode broadcast|live] [--frames] [--pretty]
    series BATTLE [--arena ID] [--seed N] [--mode broadcast|live] [--runs N] [--pretty]
    check SCRIPT
    catalog [--catalog FILE]
-/
import RobotCombat.CommandLine.Execute

set_option autoImplicit false

namespace RobotCombat.CommandLine

/-- The text of a file on disk, if it can be read as text. -/
def readDisk (path : String) : IO (Option String) := do
  try
    let text ← IO.FS.readFile ⟨path⟩
    pure (some text)
  catch _ => pure none

end RobotCombat.CommandLine

open RobotCombat.CommandLine in
def main (args : List String) : IO UInt32 := do
  let outcome ← execute readDisk args
  (← IO.getStdout).putStr outcome.output
  (← IO.getStderr).putStr outcome.errors
  pure (UInt32.ofNat outcome.code)
