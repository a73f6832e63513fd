/-
# RobotCombat.CommandLine.BattleFile — a pairing with its settings
-/
import RobotCombat.Match.Exchange

namespace RobotCombat.CommandLine

set_option autoImplicit false

open Json (Record asText? asList? asOption?)

/-- A pairing as written down. The path of a catalog is seen from the file. -/
structure BattleFile where
  fighters : List Build
  arena : Option String
  catalog : Option String
  config : MatchConfig
  deriving DecidableEq, Repr

namespace BattleFile

def fields : List String := ["fighters", "arena", "catalog", "config"]

def ofJson? (j : Json) : Option BattleFile := do
  let r ← Record.read? fields j
  let fighters ← r.required "fighters" (asList? Build.ofJson?)
  let arena ← r.withDefault "arena" (asOption? asText?) none
  let catalog ← r.withDefault "catalog" (asOption? asText?) none
  let config ← r.withDefault "config" MatchConfig.ofJson? .usual
  pure ⟨fighters, arena, catalog, config⟩

def ofText? (text : String) : Option BattleFile :=
  (Json.parse? text).bind ofJson?

end BattleFile

end RobotCombat.CommandLine
