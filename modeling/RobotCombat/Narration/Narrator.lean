/-
# RobotCombat.Narration.Narrator — two voices over a match

The narrator sees the damage of a tick and the states it left, and nothing else.
It draws lines and reactions from its own stream, so that it never touches the
fight.

| occasion | when | limit |
|----------|------|-------|
| start | the match begins | once |
| big hit | one hit above the threshold | a window since the last one |
| wall slam | a wall's damage above the threshold | a window since the last one |
| low hp | a fighter is below a quarter | once for each fighter |
| pit fall | a fall into a pit | none |
| banter | nothing else was said | earliest time, lull, chance, cap |
| finish | the match ends | once |
-/
import RobotCombat.Damage.Event
import RobotCombat.Fighter.Roster
import RobotCombat.Narration.Pool
import RobotCombat.Narration.Settings
import RobotCombat.Random.ChaCha

namespace RobotCombat

set_option autoImplicit false

open Number
open Narration (Template Slot fill)
open RobotCombat.Random (Stream)

/-- The fraction of hit points below which a fighter is in trouble. -/
def lowHpFraction : Float32 := 0.25

/-- Damage above which a big hit may draw a reaction. -/
def reactionDamage : Float32 := 20

/-- The narration of a match so far. Lines stand in the order in which they were
said; `lastLineAt` is the latest time that any of them is meant for. -/
structure Narrator where
  settings : NarrationSettings
  stream : Stream
  names : List (String × String)
  lines : Array Line
  started : Bool
  finished : Bool
  lastBigHit : Option Float32
  lastWallSlam : Option Float32
  lowHpCalled : List String
  banterCount : Nat
  lastBanterRoll : Option Float32
  lastLineAt : Float32
  deriving DecidableEq, Repr

namespace Narrator

/-- A narrator that has said nothing. -/
def ofSeed (settings : NarrationSettings) (seed : UInt64) : Narrator :=
  { settings := settings
    stream := .ofSeed seed
    names := []
    lines := #[]
    started := false
    finished := false
    lastBigHit := none
    lastWallSlam := none
    lowHpCalled := []
    banterCount := 0
    lastBanterRoll := none
    lastLineAt := 0 }

/-- A time in whole milliseconds. -/
def wholeMs (timestamp : Float32) : Nat :=
  toNatUpTo maxCount (roundAway (larger timestamp 0))

/-- Whether a window has passed since the last time, if there was one. -/
def windowElapsed (last : Option Float32) (now window : Float32) : Bool :=
  match last with
  | none => true
  | some time => window ≤ now - time

/-- How exciting a hit is: six, and one more for every four points, up to ten. -/
def hitExcitement (damage : Float32) : Nat :=
  toNatUpTo 255 (clamp (floor (damage / 4) + 6) 1 10)

/-- Adds a line. -/
def push (n : Narrator) (timestamp : Float32) (occasion : Occasion) (message : String)
    (speaker : Speaker) (excitement : Nat) : Narrator :=
  { n with
    lastLineAt := larger n.lastLineAt timestamp
    lines := n.lines.push
      ⟨wholeMs timestamp, occasion, message, speaker, max 1 (min excitement 10)⟩ }

/-- Says a line from a pool with its slots filled. -/
def say (n : Narrator) (timestamp : Float32) (occasion : Occasion) (pool : List Template)
    (speaker : Speaker) (excitement : Nat) (values : List (Slot × String)) : Narrator :=
  match n.stream.choose pool with
  | (some template, stream) =>
    push { n with stream := stream } timestamp occasion
      (String.ofList (fill values template.text)) speaker excitement
  | (none, stream) => { n with stream := stream }

/-- Rolls for a chance. -/
def roll (n : Narrator) (chance : Float) : Bool × Narrator :=
  let (hit, stream) := n.stream.roll chance
  (hit, { n with stream := stream })

/-- The name of a fighter, or its id where no name is known. -/
def nameOf (n : Narrator) (id : String) : String :=
  (n.names.lookup id).getD id

/-- The values for a line about a hit. -/
def hitValues (n : Narrator) (e : DamageEvent) : List (Slot × String) :=
  [(.attacker, match e.attacker with | some id => n.nameOf id | none => "the arena"),
    (.target, n.nameOf e.target), (.damage, wholeText e.damage), (.weapon, e.cause.tag)]

/-- Opens the match. Only the first call speaks. -/
def start (n : Narrator) (r : Roster) : Narrator :=
  if n.started then n
  else
    let names := r.entrants.map fun e => e.build.displayName
    let values := [(Slot.a, names[0]?.getD ""), (Slot.b, names[1]?.getD "")]
    let n := { n with
      started := true
      names := r.entrants.map fun (e : Entrant) => (e.id, e.build.displayName) }
    let n := n.say 0 .start Narration.Pool.startOpening .chuck 7 values
    n.say 800 .start Narration.Pool.startReply .frank 6 values

/-- A hit that was neither wall nor pit. -/
def bigHit (timestamp : Float32) (e : DamageEvent) (n : Narrator) : Narrator :=
  if e.damage ≤ n.settings.bigHitThreshold
      || !windowElapsed n.lastBigHit timestamp n.settings.bigHitWindowMs then n
  else
    let values := n.hitValues e
    let excitement := hitExcitement e.damage
    let n := { n with lastBigHit := some timestamp }
    let n := n.say timestamp .bigHit Narration.Pool.bigHit .chuck excitement values
    if reactionDamage < e.damage then
      let (reacts, n) := n.roll n.settings.bigHitFollowUp
      if reacts then
        n.say (timestamp + 600) .bigHit Narration.Pool.bigHitReply .frank (max (excitement - 1) 1)
          values
      else n
    else n

/-- A wall's damage. -/
def wallSlam (timestamp : Float32) (e : DamageEvent) (n : Narrator) : Narrator :=
  if e.damage ≤ n.settings.wallSlamThreshold
      || !windowElapsed n.lastWallSlam timestamp n.settings.wallSlamWindowMs then n
  else
    let values := n.hitValues e
    let n := { n with lastWallSlam := some timestamp }
    let n := n.say timestamp .wallSlam Narration.Pool.wallSlam .chuck 6 values
    let (reacts, n) := n.roll n.settings.wallSlamFollowUp
    if reacts then
      n.say (timestamp + 500) .wallSlam Narration.Pool.wallSlamReply .frank 5 values
    else n

/-- A fall into a pit. -/
def pitFall (timestamp : Float32) (e : DamageEvent) (n : Narrator) : Narrator :=
  let values := n.hitValues e
  let n := n.say timestamp .pitFall Narration.Pool.pitFall .chuck 10 values
  n.say (timestamp + 600) .pitFall Narration.Pool.pitFallReply .frank 9 values

/-- One application of damage. -/
def damage (timestamp : Float32) (n : Narrator) (e : DamageEvent) : Narrator :=
  match e.cause with
  | .pit => n.pitFall timestamp e
  | .wall => n.wallSlam timestamp e
  | _ => n.bigHit timestamp e

/-- A fighter in trouble. -/
def lowHp (timestamp : Float32) (id : String) (n : Narrator) : Narrator :=
  let values := [(Slot.target, n.nameOf id)]
  let n := n.say (timestamp + 200) .lowHp Narration.Pool.lowHp .chuck 8 values
  n.say (timestamp + 900) .lowHp Narration.Pool.lowHpReply .frank 7 values

/-- One fighter's state. Each fighter is called in trouble once. -/
def condition (timestamp : Float32) (n : Narrator) (s : FighterState) : Narrator :=
  if s.isAlive && s.hpFraction < lowHpFraction && !n.lowHpCalled.contains s.id then
    lowHp timestamp s.id { n with lowHpCalled := s.id :: n.lowHpCalled }
  else n

/-- Whether a roll for banter is due. -/
def banterDue (timestamp : Float32) (n : Narrator) : Bool :=
  !(n.settings.banterCap ≤ n.banterCount
    || timestamp < n.settings.banterEarliestMs
    || timestamp - n.lastLineAt < n.settings.banterLullMs
    || !windowElapsed n.lastBanterRoll timestamp n.settings.banterRollIntervalMs)

/-- Rolls for banter if that is due. A failed roll uses up the interval too. -/
def maybeBanter (timestamp : Float32) (n : Narrator) : Narrator :=
  if n.banterDue timestamp then
    let (talks, n) := roll { n with lastBanterRoll := some timestamp } n.settings.banterChance
    if talks then
      match n.stream.choose Narration.Pool.banter with
      | (some (speaker, message), stream) =>
        push { n with stream := stream, banterCount := n.banterCount + 1 } timestamp .banter message
          speaker 5
      | (none, stream) => { n with stream := stream }
    else n
  else n

/-- Reacts to a tick: its damage in order, then the states it left, and banter if
neither gave a line. -/
def observe (n : Narrator) (timestamp : Float32) (events : List DamageEvent)
    (states : List FighterState) : Narrator :=
  if n.finished then n
  else
    let after := states.foldl (condition timestamp) (events.foldl (damage timestamp) n)
    if after.lines.size = n.lines.size then after.maybeBanter timestamp else after

/-- Closes the match. Only the first call speaks. -/
def finish (n : Narrator) (timestamp : Float32) (winner : Option FighterState) (timedOut : Bool) :
    Narrator :=
  if n.finished then n
  else
    let n := { n with finished := true }
    match winner with
    | some w =>
      let values := [(Slot.winner, n.nameOf w.id), (Slot.hp, wholeText (roundAway w.hp))]
      let n := n.say timestamp .finish Narration.Pool.finishWin .chuck 10 values
      n.say (timestamp + 800) .finish Narration.Pool.finishWinReply .frank 9 values
    | none =>
      let pool :=
        if timedOut then Narration.Pool.finishTimeUp else Narration.Pool.finishDoubleKnockout
      n.say timestamp .finish pool .both 10 []

/-- All lines by time, those of one time in the order in which they were said. -/
def transcript (n : Narrator) : List Line :=
  n.lines.toList.mergeSort fun a b => a.timestamp ≤ b.timestamp

end Narrator

end RobotCombat
