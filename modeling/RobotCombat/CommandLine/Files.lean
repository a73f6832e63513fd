/-
# RobotCombat.CommandLine.Files — paths, and a directory held in memory

A path is a text of steps with slashes between. An empty step and a single dot
stay where they are, two dots go up; nothing leads out of a directory and back
into it. A file is found under a path whose steps before the last all lead to
directories of the tree.
-/
import RobotCombat.Text.Blank

namespace RobotCombat.CommandLine

set_option autoImplicit false

/-- The steps of a path. -/
def steps (path : String) : List (List Char) :=
  Text.splitAt '/' path.toList

/-- The text of steps. -/
def ofSteps (steps : List (List Char)) : String :=
  String.ofList (['/'].intercalate steps)

/-- Whether a step stays where it is. -/
def isStill (step : List Char) : Bool :=
  step.isEmpty || step = ['.']

/-- Steps without the still ones at their end; the first step is kept. -/
def dropStill : List (List Char) → List (List Char)
  | [] => []
  | first :: rest => first :: (rest.reverse.dropWhile isStill).reverse

/-- The directory that holds the file of a path. It is the empty path for a file
named alone. -/
def directoryOf (path : String) : String :=
  match dropStill (steps path).dropLast with
  | [[]] => "/"
  | directory => ofSteps directory

/-- A path as seen from a directory. -/
def join (directory path : String) : String :=
  if Text.startsWith path.toList ['/'] || directory.isEmpty then path
  else if directory.toList.getLast? = some '/' then directory ++ path
  else directory ++ "/" ++ path

/-- Text files by their steps from a common directory. -/
structure Directory where
  files : List (List (List Char) × String)

namespace Directory

/-- The directory that holds the given files. -/
def ofFiles (files : List (String × String)) : Directory :=
  ⟨files.map fun f => ((steps f.1).filter fun s => !isStill s, f.2)⟩

/-- Whether steps lead to a directory that holds a file. -/
def isDirectory (d : Directory) (place : List (List Char)) : Bool :=
  place.isEmpty || d.files.any fun f => place.isPrefixOf f.1 && place.length < f.1.length

/-- The text of the file that steps lead to from a directory of the tree. -/
def readFrom? (d : Directory) (place : List (List Char)) : List (List Char) → Option String
  | [] => none
  | [last] => if isStill last || last = ['.', '.'] then none else d.files.lookup (place ++ [last])
  | step :: rest =>
    if isStill step then d.readFrom? place rest
    else if step = ['.', '.'] then
      if place.isEmpty then none else d.readFrom? place.dropLast rest
    else if d.isDirectory (place ++ [step]) then d.readFrom? (place ++ [step]) rest
    else none

/-- The text of the file of a path. -/
def read? (d : Directory) (path : String) : Option String :=
  if Text.startsWith path.toList ['/'] then none else d.readFrom? [] (steps path)

end Directory

end RobotCombat.CommandLine
