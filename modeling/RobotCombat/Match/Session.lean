/-
# RobotCombat.Match.Session — a match paced by a frame clock

A session collects fighters and then turns the time of every frame into ticks.
Time that is not enough for a tick is kept for the next frame; a frame counts at
most `maxFrameMs`, and a length that is negative or no number counts nothing.
The first frame starts the match.

Subscribers are told of a tick in order: its damage, then the state after it.
-/
import RobotCombat.Match.Battle

namespace RobotCombat

set_option autoImplicit false

open Number

/-- The longest frame that counts in full. -/
def maxFrameMs : Float32 := 250

/-- What a subscriber is told. -/
inductive Notice where
  | damage (e : DamageEvent)
  | state (f : Frame)
  deriving DecidableEq, Repr

/-- A match driven frame by frame. -/
structure Session where
  catalog : Catalog
  arena : Arena
  config : MatchConfig
  roster : Roster
  battle : Option Battle
  paused : Bool
  accumulatedMs : Float32
  tellsStates : Bool
  tellsDamage : Bool

namespace Session

/-- A session without fighters or subscribers. -/
def new (c : Catalog) (arenaId : String) (config : MatchConfig) : Session :=
  { catalog := c
    arena := c.arenaOrFallback arenaId
    config := config
    roster := .empty
    battle := none
    paused := false
    accumulatedMs := 0
    tellsStates := false
    tellsDamage := false }

/-- Tells of the state after every tick from now on. -/
def subscribeStates (s : Session) : Session := { s with tellsStates := true }

/-- Tells of all damage from now on. -/
def subscribeDamage (s : Session) : Session := { s with tellsDamage := true }

def isStarted (s : Session) : Bool := s.battle.isSome

def isFinished (s : Session) : Bool :=
  match s.battle with
  | some b => b.isFinished
  | none => false

/-- The fighters as they stand; none before the first frame. -/
def states (s : Session) : List FighterState :=
  match s.battle with
  | some b => b.states
  | none => []

/-- Enters a fighter. A match that has started takes none. -/
def addFighter (s : Session) (b : Build) (spawn : Vector2) : Except EntryError Session :=
  if s.isStarted then .error (.alreadyStarted b.id)
  else (s.roster.add b spawn s.catalog).map fun r => { s with roster := r }

/-- The time that a frame counts. -/
def frameMs (deltaMs : Float32) : Float32 :=
  if deltaMs.isFinite then clamp deltaMs 0 maxFrameMs else 0

/-- What subscribers are told of the last tick of a match. -/
def notices (tellsStates tellsDamage : Bool) (b : Battle) : List Notice :=
  (if tellsDamage then b.lastDamage.map .damage else [])
    ++ (if tellsStates then [.state b.snapshot] else [])

/-- Where a frame has got to: the match, the time left, the ticks it ran and what
it told. -/
structure Progress where
  battle : Battle
  leftMs : Float32
  ticks : Nat
  told : List Notice

/-- One tick of a frame. -/
def Progress.advance (tellsStates tellsDamage : Bool) (p : Progress) : Progress :=
  let b := p.battle.step
  { battle := b
    leftMs := p.leftMs - larger p.battle.config.tickMs 0
    ticks := p.ticks + 1
    told := p.told ++ notices tellsStates tellsDamage b }

/-- The ticks of a frame: as many as its time allows, one if ticks take none, and
none once the match is over. The bound is the number of ticks that the match can
still last. -/
def Progress.run (tellsStates tellsDamage : Bool) : Nat → Progress → Progress
  | 0, p => p
  | bound + 1, p =>
    if p.battle.isFinished then p
    else if p.battle.config.tickMs ≤ 0 then p.advance tellsStates tellsDamage
    else if p.battle.config.tickMs ≤ p.leftMs then
      Progress.run tellsStates tellsDamage bound (p.advance tellsStates tellsDamage)
    else p

/-- The match of the session, started if it was not. -/
def battleOrStart (s : Session) : Battle :=
  match s.battle with
  | some b => b
  | none => .start s.roster s.arena s.config

/-- What a frame did. -/
structure FrameReport where
  session : Session
  ticks : Nat
  told : List Notice

/-- Lets the time of a frame pass. -/
def tick (s : Session) (deltaMs : Float32) : FrameReport :=
  if s.paused || s.isFinished then ⟨s, 0, []⟩
  else
    let b := s.battleOrStart
    let p := Progress.run s.tellsStates s.tellsDamage (max 1 (b.config.maxTicks - b.tick))
      ⟨b, s.accumulatedMs + frameMs deltaMs, 0, []⟩
    { session :=
        { s with
          battle := some p.battle
          accumulatedMs := if p.battle.isFinished then 0 else p.leftMs }
      ticks := p.ticks
      told := p.told }

def pause (s : Session) : Session := { s with paused := true }

def resume (s : Session) : Session := { s with paused := false }

/-- Forgets fighters, match and time. Subscribers stay. -/
def reset (s : Session) : Session :=
  { s with roster := .empty, battle := none, paused := false, accumulatedMs := 0 }

/-- Takes the record of a finished match and empties the session. -/
def takeResult (s : Session) : Option MatchResult × Session :=
  match s.battle with
  | some b => if b.isFinished then (some b.result, s.reset) else (none, s)
  | none => (none, s)

end Session

end RobotCombat
