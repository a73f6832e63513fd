import RobotCombat.Catalog.Basic
import RobotCombat.Catalog.Exchange
import RobotCombat.Catalog.Part
import RobotCombat.Catalog.Stock
import RobotCombat.Catalog.Table
import RobotCombat.CommandLine.Arguments
import RobotCombat.CommandLine.BattleFile
import RobotCombat.CommandLine.Execute
import RobotCombat.CommandLine.Files
import RobotCombat.Damage.Combat
import RobotCombat.Damage.Event
import RobotCombat.Damage.Hazards
import RobotCombat.Damage.Ruling
import RobotCombat.Fighter.Build
import RobotCombat.Fighter.Exchange
import RobotCombat.Fighter.Loadout
import RobotCombat.Fighter.Roster
import RobotCombat.Fighter.State
import RobotCombat.Fighter.Status
import RobotCombat.Json.Field
import RobotCombat.Json.Numeral
import RobotCombat.Json.Reader
import RobotCombat.Json.Value
import RobotCombat.Json.Writer
import RobotCombat.Main
import RobotCombat.Match.Battle
import RobotCombat.Match.Config
import RobotCombat.Match.Exchange
import RobotCombat.Match.Result
import RobotCombat.Match.Series
import RobotCombat.Match.Session
import RobotCombat.Narration.Line
import RobotCombat.Narration.Narrator
import RobotCombat.Narration.Pool
import RobotCombat.Narration.Settings
import RobotCombat.Number.Binary
import RobotCombat.Number.Literal
import RobotCombat.Number.Shortest
import RobotCombat.Number.Single
import RobotCombat.Physics.Contact
import RobotCombat.Physics.World
import RobotCombat.Plane.Angle
import RobotCombat.Plane.Vector
import RobotCombat.Random.ChaCha
import RobotCombat.Script.Exchange
import RobotCombat.Script.Interpreter
import RobotCombat.Script.Parser
import RobotCombat.Script.Syntax
import RobotCombat.Tactics.Controller
import RobotCombat.Tactics.Preset
import RobotCombat.Tactics.Scripted
import RobotCombat.Tactics.Steering
import RobotCombat.Text.Blank
import RobotCombat.Proofs.Number.Difference
import RobotCombat.Proofs.Fighter.Health
import RobotCombat.Proofs.Damage.Account
import RobotCombat.Proofs.Match.Tick
import RobotCombat.Proofs.Match.Alignment
import RobotCombat.Proofs.Match.Account
import RobotCombat.Proofs.Match.Pacing
import RobotCombat.Proofs.Match.Presentation
import RobotCombat.Proofs.Match.Zones
import RobotCombat.Proofs.Script.Selection
import RobotCombat.Proofs.Damage.Fairness
import RobotCombat.Proofs.Match.Cooldowns
import RobotCombat.Proofs.Match.Origins
import RobotCombat.Proofs.Match.Episodes
import RobotCombat.Proofs.Match.Broadcast
import RobotCombat.Proofs.Script.Numbering
import RobotCombat.Proofs.Physics.Facing
import RobotCombat.Proofs.Damage.Facing
import RobotCombat.Proofs.Match.Facing
import RobotCombat.Proofs.Physics.Sensors
import RobotCombat.Proofs.Narration.Gates
import RobotCombat.Proofs.Match.Commentary
import RobotCombat.Proofs.Match.Series
import RobotCombat.Proofs.Catalog.Loaded
import RobotCombat.Proofs.Match.Scoring
import RobotCombat.Proofs.Json.Numeral
import RobotCombat.Proofs.Json.Tokens
import RobotCombat.Proofs.Json.Documents
import RobotCombat.Proofs.Json.Recovery
import RobotCombat.Proofs.Catalog.Exchange
import RobotCombat.Proofs.Fighter.Status
import RobotCombat.Proofs.Fighter.Exchange
import RobotCombat.Proofs.Match.Exchange
import RobotCombat.Proofs.Script.Exchange
import RobotCombat.Proofs.Exchange
import RobotCombat.Proofs.Damage.Separation
import RobotCombat.Proofs.Damage.WeaponTable
import RobotCombat.Proofs.Damage.Clash
import RobotCombat.Proofs.Text.Letters
import RobotCombat.Proofs.Script.Letters
import RobotCombat.Proofs.Number.Sign
import RobotCombat.Proofs.Physics.Overlap
import RobotCombat.Proofs.Number.Endings
import RobotCombat.Proofs.Tactics.RamCycle
import RobotCombat.Proofs.Physics.Forces
import RobotCombat.Proofs.Match.Pushes
import RobotCombat.Proofs.Script.Cuts
import RobotCombat.Proofs.Script.Connectives
import RobotCombat.Proofs.Text.Replace
import RobotCombat.Proofs.Narration.Templates
import RobotCombat.Proofs.Narration.Filling
import RobotCombat.Proofs.Number.Height
import RobotCombat.Proofs.Number.Rounding
import RobotCombat.Proofs.Number.Whole
import RobotCombat.Proofs.Narration.Closing
