/-
# RobotCombat.Match.Battle — one match, tick by tick

A tick has six parts. Every controller decides from the same snapshot; living
fighters push toward where they want to go, and the pushes of the last tick act;
the world moves; the contacts are ruled on, from a copy of the snapshot that has
moved along; weapons cool down; the narrator observes, and the match ends if
fewer than two fighters are alive or its time is up.

`step` leaves a finished match as it is. `run` steps until the match is
finished; a match of at most `maxTicks` ticks needs no more than that many steps,
and at least one.
-/
import RobotCombat.Damage.Hazards
import RobotCombat.Match.Config
import RobotCombat.Match.Result
import RobotCombat.Narration.Narrator
import RobotCombat.Tactics.Controller

namespace RobotCombat

set_option autoImplicit false

open Number

/-- How a match ended. -/
structure Outcome where
  winner : Option String
  timedOut : Bool
  deriving DecidableEq, Repr

/-- A match in progress. Controllers, bodies and states stand in roster order;
`previous` are the states before the last tick, and `pushes` are the ones that the
next tick will feel. `unscorable` is set once damage has reached a fighter whose
hit points have a negative maximum. -/
structure Battle where
  config : MatchConfig
  arena : Arena
  roster : Roster
  controllers : List Controller
  world : World
  states : List FighterState
  previous : List FighterState
  pushes : List (Nat × Vector2)
  narrator : Narrator
  damageLog : Array DamageEvent
  lastDamage : List DamageEvent
  frames : Array Frame
  tick : Nat
  outcome : Option Outcome
  unscorable : Bool
  deriving DecidableEq, Repr

namespace Battle

/-- A match that is about to begin. -/
def start (r : Roster) (a : Arena) (c : MatchConfig) : Battle :=
  { config := c
    arena := a
    roster := r
    controllers := r.entrants.map fun e => .ofStrategy e.build.strategy
    world := r.entrants.foldl
      (fun w e => w.addBody e.spawn e.stats.radius e.stats.weight) (.ofArena a c.physics)
    states := r.spawnStates
    previous := r.spawnStates
    pushes := []
    narrator := (Narrator.ofSeed c.narration c.seed).start r
    damageLog := #[]
    lastDamage := []
    frames := #[]
    tick := 0
    outcome := none
    unscorable := false }

def isFinished (b : Battle) : Bool := b.outcome.isSome

/-- The simulated time so far. -/
def elapsedMs (b : Battle) : Float32 := b.config.timeAt b.tick

/-- The fighter at a place as others see it. -/
def combatant? (b : Battle) (place : Nat) : Option Combatant :=
  match b.roster.get? place, b.states[place]? with
  | some e, some s => some (.of e s)
  | _, _ => none

/-- What the fighter at a place sees. -/
def view? (b : Battle) (place : Nat) : Option View :=
  (b.combatant? place).map fun me =>
    { me := me
      opponent := (b.roster.opponentOf? place).bind b.combatant?
      arena := b.arena
      dtMs := b.config.tickMs }

/-- The decision of the controller at a place, and the controller after it. -/
def decideAt (b : Battle) (controller : Controller) (place : Nat) : Intent × Controller :=
  match b.view? place with
  | some view => controller.decide view
  | none => (.idle, controller)

/-- All decisions, from one snapshot. -/
def decisions (b : Battle) : List (Intent × Controller) :=
  b.controllers.zipIdx.map fun (controller, place) => b.decideAt controller place

/-- A living fighter pushes and turns toward its intent. -/
def drive (b : Battle) (w : World) (intent : Intent) (place : Nat) : World :=
  match b.combatant? place with
  | some me =>
    if me.state.isAlive then
      let push := intent.direction * me.stats.speed * b.config.physics.forcePerSpeed
      let turn := Angle.wrap (intent.facing - me.state.angle) * b.config.physics.turnRate
      (w.push place push).spin place turn
    else w
  | none => w

/-- The world with every fighter's drive and the pushes of the last tick. -/
def driven (b : Battle) (intents : List Intent) : World :=
  let w := intents.zipIdx.foldl (fun w i => b.drive w i.1 i.2) b.world
  b.pushes.foldl (fun w p => w.push p.1 p.2) w

/-- A fighter's state at the start of the ruling: moved with its body, without
the marks of the last tick, and under the name of its intent if it is alive. -/
def carried (w : World) (intents : List Intent) (s : FighterState) (place : Nat) : FighterState :=
  let s := { s with status := s.status.forNewTick }
  let s :=
    match w.motion? place with
    | some m => { s with position := m.position, velocity := m.velocity, angle := m.angle }
    | none => s
  match intents[place]? with
  | some intent => if s.isAlive then { s with action := intent.label, rule := intent.rule } else s
  | none => s

/-- The first living fighter, and whether there is another. -/
def standing (states : List FighterState) : Option FighterState × Bool :=
  let alive := states.filter (·.isAlive)
  (alive.head?, 1 < alive.length)

/-- How a match stands that has come to a tick: over with fewer than two alive,
or with its time up. -/
def outcomeOf? (c : MatchConfig) (tick : Nat) (states : List FighterState) : Option Outcome :=
  let (survivor, more) := standing states
  if !more then some ⟨survivor.map (·.id), false⟩
  else if c.maxTicks ≤ tick then some ⟨none, true⟩
  else none

/-- The fighter that the closing lines are about. -/
def winnerState (states : List FighterState) : Option FighterState :=
  let (survivor, more) := standing states
  if more then none else survivor

/-- Closes the narration if the match is over. -/
def conclude (n : Narrator) (timestamp : Float32) (states : List FighterState) :
    Option Outcome → Narrator
  | some o => n.finish timestamp (winnerState states) o.timedOut
  | none => n

/-- One tick of a match that is not over. -/
def tickOnce (b : Battle) : Battle :=
  let dt := b.config.tickMs
  let tick := b.tick + 1
  let timestamp := b.config.timeAt tick
  let decisions := b.decisions
  let intents := decisions.map (·.1)
  let world := (b.driven intents).step dt
  let moved := b.states.zipIdx.map fun (s, place) => carried world intents s place
  let scene : Scene := ⟨b.roster, b.arena, timestamp, b.config.physics.forcePerSpeed⟩
  let ruling := Ruling.ofContacts scene b.states moved world.contacts
  let states := ruling.states.map (·.cool dt)
  let outcome := outcomeOf? b.config tick states
  let narrator := b.narrator.observe timestamp ruling.damage states
  let frame : Frame := ⟨tick, timestamp, states, ruling.damage⟩
  { b with
    controllers := decisions.map (·.2)
    world := world
    states := states
    previous := b.states
    pushes := ruling.pushes
    narrator := conclude narrator timestamp states outcome
    damageLog := b.damageLog ++ ruling.damage
    lastDamage := ruling.damage
    frames := if b.config.recordFrames then b.frames.push frame else b.frames
    tick := tick
    outcome := outcome
    unscorable := b.unscorable || ruling.unscorable }

/-- One tick; nothing once the match is over. -/
def step (b : Battle) : Battle :=
  if b.isFinished then b else b.tickOnce

/-- A number of ticks. -/
def steps : Nat → Battle → Battle
  | 0, b => b
  | n + 1, b => steps n b.step

/-- Up to a number of ticks, stopping once the match is over. -/
def runFor : Nat → Battle → Battle
  | 0, b => b
  | n + 1, b => if b.isFinished then b else runFor n b.tickOnce

/-- Ticks until the match is over. -/
def run (b : Battle) : Battle :=
  runFor (max 1 (b.config.maxTicks - b.tick)) b

/-- The last tick as a frame. -/
def snapshot (b : Battle) : Frame :=
  ⟨b.tick, b.elapsedMs, b.states, b.lastDamage⟩

/-- The record of the match so far. A match that is not over has no winner and
has not timed out. -/
def result (b : Battle) : MatchResult :=
  { winner := b.outcome.bind (·.winner)
    duration := b.elapsedMs
    frameCount := b.tick
    finalStates := b.states.map FinalState.of
    damageLog := b.damageLog.toList
    commentary := b.narrator.transcript
    timedOut := match b.outcome with | some o => o.timedOut | none => false
    frames := b.frames.toList }

end Battle

/-- Enters a fighter where that is possible. -/
def Roster.addIfPossible (r : Roster) (b : Build) (spawn : Vector2) (c : Catalog) : Roster :=
  match r.add b spawn c with
  | .ok r => r
  | .error _ => r

/-- The roster of two fighters at their spawn points. The second one gets another
id if the ids clash. -/
def pairing (a b : Build) (arena : Arena) (c : Catalog) (config : MatchConfig) : Roster :=
  let b := if a.id = b.id then b.withId (b.id ++ "#2") else b
  (Roster.empty.addIfPossible a (config.spawnFractions.1.scaleBy arena.size) c).addIfPossible b
    (config.spawnFractions.2.scaleBy arena.size) c

/-- The match of two fighters on an arena of a catalog, before its first tick. -/
def battleOf (a b : Build) (arenaId : String) (c : Catalog) (config : MatchConfig) : Battle :=
  let arena := c.arenaOrFallback arenaId
  .start (pairing a b arena c config) arena config

/-- The record of a whole match. -/
def runBattle (a b : Build) (arenaId : String) (c : Catalog) (config : MatchConfig) : MatchResult :=
  (battleOf a b arenaId c config).run.result

end RobotCombat
