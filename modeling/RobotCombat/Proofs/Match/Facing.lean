/-
# RobotCombat.Proofs.Match.Facing — where fighters face is for show

Controllers choose a facing and bodies turn toward it, but nothing ever looks at a heading:
not the controllers, which see positions, speeds and hit points, not the bodies, and not
the rules of damage. `Battle.unturned` is a match without headings and without the rate of
turning, and a tick is determined by it, up to headings (`tickOnce_unturned`). So two
matches that agree without headings do so for all time.

* `facing_is_output`: the records of two matches that differ in the turn rate alone agree
  but for the headings in their frames.
-/
import RobotCombat.Proofs.Damage.Facing
import RobotCombat.Proofs.Match.Verdict
import RobotCombat.Proofs.Physics.Facing

namespace RobotCombat

set_option autoImplicit false

/-! ## Decisions -/

def Combatant.unturned (c : Combatant) : Combatant := { c with state := c.state.unturned }

/-- What a controller sees, without headings. -/
def View.unturned (v : View) : View :=
  { v with me := v.me.unturned, opponent := v.opponent.map Combatant.unturned }

/-- A decision is no matter of headings. -/
theorem Controller.decide_unturned (c : Controller) (view : View) :
    c.decide view.unturned = c.decide view := by
  obtain ⟨me, opponent, arena, dtMs⟩ := view
  cases c <;> cases opponent <;> rfl

/-! ## The commentary -/

namespace Narrator

variable (n : Narrator) (timestamp : Float32)

theorem observe_unturned (events : List DamageEvent) (states : List FighterState) :
    n.observe timestamp events (states.map FighterState.unturned) =
      n.observe timestamp events states := by
  unfold observe
  rw [List.foldl_map]
  rfl

theorem finish_unturned (winner : Option FighterState) (timedOut : Bool) :
    n.finish timestamp (winner.map FighterState.unturned) timedOut =
      n.finish timestamp winner timedOut := by
  cases winner <;> rfl

end Narrator

def Frame.unturned (f : Frame) : Frame :=
  { f with fighters := f.fighters.map FighterState.unturned }

/-- The settings without the rate of turning. -/
def MatchConfig.unturned (c : MatchConfig) : MatchConfig := { c with physics := c.physics.unturned }

namespace Battle

/-- The match without headings. -/
def unturned (b : Battle) : Battle :=
  { b with
    config := b.config.unturned
    world := b.world.unturned
    states := b.states.map FighterState.unturned
    previous := b.previous.map FighterState.unturned
    frames := b.frames.map Frame.unturned }

/-! ## How a match stands -/

theorem standing_unturned (states : List FighterState) :
    standing (states.map FighterState.unturned) =
      ((standing states).1.map FighterState.unturned, (standing states).2) := by
  have alive : (states.map FighterState.unturned).filter (·.isAlive) =
      (states.filter (·.isAlive)).map FighterState.unturned := by
    rw [List.filter_map]
    rfl
  unfold standing
  dsimp only
  rw [alive, List.head?_map, List.length_map]

theorem outcomeOf?_unturned (c : MatchConfig) (tick : Nat) (states : List FighterState) :
    outcomeOf? c.unturned tick (states.map FighterState.unturned) = outcomeOf? c tick states := by
  have limit : c.unturned.maxTicks = c.maxTicks := rfl
  have ids : ((standing states).1.map FighterState.unturned).map (·.id) =
      (standing states).1.map (·.id) := Option.map_map _ _ _
  unfold outcomeOf?
  rw [standing_unturned, limit]
  dsimp only
  rw [ids]

theorem winnerState_unturned (states : List FighterState) :
    winnerState (states.map FighterState.unturned) =
      (winnerState states).map FighterState.unturned := by
  unfold winnerState
  rw [standing_unturned]
  dsimp only
  split <;> rfl

theorem conclude_unturned (n : Narrator) (timestamp : Float32) (states : List FighterState)
    (outcome : Option Outcome) :
    conclude n timestamp (states.map FighterState.unturned) outcome =
      conclude n timestamp states outcome := by
  cases outcome with
  | none => rfl
  | some o =>
      unfold conclude
      dsimp only
      rw [winnerState_unturned, Narrator.finish_unturned]

/-! ## The stages of a tick -/

variable (b : Battle)

theorem combatant?_unturned (place : Nat) :
    b.unturned.combatant? place = (b.combatant? place).map Combatant.unturned := by
  have state : b.unturned.states[place]? = b.states[place]?.map FighterState.unturned :=
    List.getElem?_map
  have entrant : b.unturned.roster.get? place = b.roster.get? place := rfl
  unfold combatant?
  rw [state, entrant]
  cases b.roster.get? place <;> cases b.states[place]? <;> rfl

theorem view?_unturned (place : Nat) :
    b.unturned.view? place = (b.view? place).map View.unturned := by
  have opponent : (b.unturned.roster.opponentOf? place).bind b.unturned.combatant? =
      ((b.roster.opponentOf? place).bind b.combatant?).map Combatant.unturned := by
    rw [Option.map_bind]
    exact congrArg (Option.bind _) (funext b.combatant?_unturned)
  unfold view?
  rw [opponent, combatant?_unturned, Option.map_map, Option.map_map]
  rfl

/-- Decisions are no matter of headings. -/
theorem decisions_unturned : b.unturned.decisions = b.decisions := by
  have each : ∀ controller place,
      b.unturned.decideAt controller place = b.decideAt controller place := by
    intro controller place
    unfold decideAt
    rw [view?_unturned]
    cases b.view? place with
    | none => rfl
    | some view => exact controller.decide_unturned view
  unfold decisions
  simp only [each]
  rfl

theorem intents_unturned : b.unturned.intents = b.intents :=
  congrArg (List.map Prod.fst) b.decisions_unturned

/-- What is left of a drive without the turn. -/
def thrust (b : Battle) (w : World) (intent : Intent) (place : Nat) : World :=
  match b.combatant? place with
  | some me =>
    if me.state.isAlive then
      w.push place (intent.direction * me.stats.speed * b.config.physics.forcePerSpeed)
    else w
  | none => w

theorem thrust_unturned : b.unturned.thrust = b.thrust := by
  funext w intent place
  unfold thrust
  rw [combatant?_unturned]
  cases b.combatant? place with
  | none => rfl
  | some me => rfl

theorem drive_unturned (w : World) (intent : Intent) (place : Nat) :
    (b.drive w intent place).unturned = b.thrust w.unturned intent place := by
  unfold drive thrust
  cases b.combatant? place with
  | none => rfl
  | some me =>
      dsimp only
      split
      · rw [World.spin_unturned, World.push_unturned]
      · rfl

/-- The drives and pushes of a tick are no matter of headings. -/
theorem driven_unturned (intents : List Intent) :
    (b.unturned.driven intents).unturned = (b.driven intents).unturned := by
  have driven : ∀ b : Battle, (b.driven intents).unturned =
      b.pushes.foldl (fun w p => w.push p.1 p.2)
        (intents.zipIdx.foldl (fun w i => b.thrust w i.1 i.2) b.world.unturned) := by
    intro b
    unfold Battle.driven
    rw [List.foldl_hom World.unturned fun w i => (b.drive_unturned w i.1 i.2).symm]
    exact (List.foldl_hom World.unturned fun w p => (w.push_unturned p.1 p.2).symm).symm
  have world : b.unturned.world.unturned = b.world.unturned := b.world.unturned_unturned
  rw [driven, driven, thrust_unturned, world]
  rfl

theorem nextWorld_unturned : b.unturned.nextWorld.unturned = b.nextWorld.unturned := by
  unfold nextWorld
  rw [intents_unturned, ← World.step_unturned, driven_unturned, World.step_unturned]
  rfl

theorem nextContacts_unturned : b.unturned.nextWorld.contacts = b.nextWorld.contacts := by
  unfold nextWorld
  rw [intents_unturned, ← World.contacts_unturned, driven_unturned, World.contacts_unturned]
  rfl

theorem carried_unturned (w : World) (intents : List Intent) (s : FighterState) (place : Nat) :
    carried w.unturned intents s.unturned place = (carried w intents s place).unturned := by
  have motion : w.unturned.motion? place = (w.motion? place).map Motion.unturned := by
    unfold World.motion? World.unturned
    rw [List.getElem?_map, Option.map_map, Option.map_map]
    rfl
  obtain ⟨id, position, velocity, angle, hp, maxHp, ⟨destroyed, _⟩, _⟩ := s
  unfold carried
  rw [motion]
  cases destroyed <;> cases w.motion? place <;> cases intents[place]? <;> rfl

theorem moved_unturned :
    b.unturned.moved.map FighterState.unturned = b.moved.map FighterState.unturned := by
  have moved : ∀ b : Battle, b.moved.map FighterState.unturned =
      (b.states.map FighterState.unturned).zipIdx.map fun s =>
        carried b.nextWorld.unturned b.intents s.1 s.2 := by
    intro b
    unfold Battle.moved
    rw [List.zipIdx_map, List.map_map, List.map_map]
    refine List.map_congr_left fun ⟨s, place⟩ _ => ?_
    rw [Function.comp_apply, Function.comp_apply, Prod.map_apply, id]
    exact (carried_unturned b.nextWorld b.intents s place).symm
  have states : b.unturned.states.map FighterState.unturned =
      b.states.map FighterState.unturned := FighterState.map_unturned b.states
  rw [moved, moved, states, nextWorld_unturned, intents_unturned]

theorem ruling_unturned : b.unturned.ruling.unturned = b.ruling.unturned := by
  have states : b.unturned.states.map FighterState.unturned =
      b.states.map FighterState.unturned := FighterState.map_unturned b.states
  unfold ruling
  rw [← Ruling.ofContacts_unturned, ← Ruling.ofContacts_unturned, states, moved_unturned,
    nextContacts_unturned]
  rfl

theorem settled_unturned :
    b.unturned.settled.map FighterState.unturned = b.settled.map FighterState.unturned := by
  have settled : ∀ b : Battle, b.settled.map FighterState.unturned =
      b.ruling.unturned.states.map (·.cool b.config.tickMs) := by
    intro b
    unfold Battle.settled Ruling.unturned
    rw [List.map_map, List.map_map]
    rfl
  rw [settled, settled, ruling_unturned]
  rfl

theorem verdict_unturned : b.unturned.verdict = b.verdict := by
  have verdict : ∀ b : Battle, b.verdict =
      outcomeOf? b.config.unturned (b.tick + 1) (b.settled.map FighterState.unturned) :=
    fun b => (outcomeOf?_unturned b.config (b.tick + 1) b.settled).symm
  rw [verdict, verdict, settled_unturned]
  rfl

/-- A tick without headings, in terms of what the stages leave without headings. -/
theorem tickOnce_without_headings :
    b.tickOnce.unturned =
      { b.unturned with
        controllers := b.decisions.map (·.2)
        world := b.nextWorld.unturned
        states := b.settled.map FighterState.unturned
        previous := b.states.map FighterState.unturned
        pushes := b.ruling.pushes
        narrator :=
          conclude
            (b.narrator.observe b.scene.timestamp b.ruling.damage
              (b.settled.map FighterState.unturned))
            b.scene.timestamp (b.settled.map FighterState.unturned) b.verdict
        damageLog := b.damageLog ++ b.ruling.damage
        lastDamage := b.ruling.damage
        frames :=
          if b.config.recordFrames then
            (b.frames.map Frame.unturned).push ⟨b.tick + 1, b.scene.timestamp,
              b.settled.map FighterState.unturned, b.ruling.damage⟩
          else b.frames.map Frame.unturned
        tick := b.tick + 1
        outcome := b.verdict
        unscorable := b.unscorable || b.ruling.unscorable } := by
  rw [conclude_unturned, Narrator.observe_unturned, tickOnce_eq]
  unfold unturned
  dsimp only
  cases b.config.recordFrames with
  | false => rfl
  | true => rw [if_pos rfl, if_pos rfl, Array.map_push]; rfl

theorem unturned_unturned : b.unturned.unturned = b.unturned := by
  have once : Frame.unturned ∘ Frame.unturned = Frame.unturned := by
    funext f
    unfold Frame.unturned
    rw [Function.comp_apply, FighterState.map_unturned]
  unfold unturned
  rw [World.unturned_unturned, FighterState.map_unturned, FighterState.map_unturned,
    Array.map_map, once]
  rfl

/-- A tick is determined by the match without headings, up to headings. -/
theorem tickOnce_unturned : b.unturned.tickOnce.unturned = b.tickOnce.unturned := by
  obtain ⟨damage, pushes, unscorable⟩ := Ruling.effects_of_unturned b.ruling_unturned
  have frames : b.unturned.frames.map Frame.unturned = b.frames.map Frame.unturned :=
    congrArg Battle.frames b.unturned_unturned
  have states : b.unturned.states.map FighterState.unturned = b.states.map FighterState.unturned :=
    FighterState.map_unturned b.states
  rw [tickOnce_without_headings, tickOnce_without_headings, unturned_unturned, decisions_unturned,
    nextWorld_unturned, settled_unturned, verdict_unturned, damage, pushes, unscorable, frames,
    states]
  rfl

/-! ## Whole matches -/

section Runs

variable {b b' : Battle}

/-- What is read off a match without headings is the same for both. -/
theorem reading_congr {α : Type} (same : b.unturned = b'.unturned) (f : Battle → α)
    (kept : ∀ b : Battle, f b.unturned = f b) : f b = f b' := by
  rw [← kept b, same, kept b']

/-- Two matches that agree without headings agree so after a tick. -/
theorem tickOnce_congr (same : b.unturned = b'.unturned) :
    b.tickOnce.unturned = b'.tickOnce.unturned := by
  rw [← tickOnce_unturned b, same, tickOnce_unturned b']

theorem isFinished_congr (same : b.unturned = b'.unturned) : b.isFinished = b'.isFinished :=
  reading_congr same isFinished fun _ => rfl

theorem steps_congr (same : b.unturned = b'.unturned) :
    ∀ n : Nat, (steps n b).unturned = (steps n b').unturned := by
  intro n
  induction n generalizing b b' with
  | zero => exact same
  | succ n ih =>
      refine ih ?_
      unfold step
      rw [isFinished_congr same]
      split
      · exact same
      · exact tickOnce_congr same

theorem runFor_congr (same : b.unturned = b'.unturned) :
    ∀ n : Nat, (runFor n b).unturned = (runFor n b').unturned := by
  intro n
  induction n generalizing b b' with
  | zero => exact same
  | succ n ih =>
      rw [runFor, runFor, isFinished_congr same]
      split
      · exact same
      · exact ih (tickOnce_congr same)

theorem run_congr (same : b.unturned = b'.unturned) : b.run.unturned = b'.run.unturned := by
  have most : max 1 (b.config.maxTicks - b.tick) = max 1 (b'.config.maxTicks - b'.tick) :=
    reading_congr same (fun b => max 1 (b.config.maxTicks - b.tick)) fun _ => rfl
  unfold run
  rw [most]
  exact runFor_congr same _

end Runs

/-- The record of a match without headings. -/
theorem result_unturned :
    b.unturned.result = { b.result with frames := b.result.frames.map Frame.unturned } := by
  have final : (b.states.map FighterState.unturned).map FinalState.of =
      b.states.map FinalState.of := by
    rw [List.map_map]
    rfl
  have frames : (b.frames.map Frame.unturned).toList = b.frames.toList.map Frame.unturned :=
    Array.toList_map
  unfold result unturned
  dsimp only
  rw [final, frames]
  rfl

end Battle

/-- The settings with a rate of turning. -/
def MatchConfig.turning (c : MatchConfig) (rate : Float32) : MatchConfig :=
  { c with physics := { c.physics with turnRate := rate } }

namespace Battle

/-- A match at its beginning, without headings, is no matter of the rate of turning. -/
theorem start_turning (r : Roster) (a : Arena) (c : MatchConfig) (rate rate' : Float32) :
    (start r a (c.turning rate)).unturned = (start r a (c.turning rate')).unturned := by
  have world : ∀ rate : Float32, (start r a (c.turning rate)).world.unturned =
      r.entrants.foldl (fun w e => w.addBody e.spawn e.stats.radius e.stats.weight)
        (.ofArena a c.physics.unturned) := fun rate =>
    (List.foldl_hom World.unturned fun w e =>
      w.addBody_unturned e.spawn e.stats.radius e.stats.weight).symm
  unfold unturned
  rw [world, world]
  rfl

/-- Where fighters face is for show. The records of two matches that differ in the rate of
turning alone agree on winner, duration, ticks, final states, damage and commentary, and
their frames differ in the headings of the fighters alone. And from any moment of any match
on, taking away all headings and the rate of turning changes no decision, contact, motion or
damage of any later tick. -/
theorem facing_is_output (a b : Build) (arenaId : String) (c : Catalog) (config : MatchConfig)
    (rate rate' : Float32) :
    (let record := runBattle a b arenaId c (config.turning rate)
     let record' := runBattle a b arenaId c (config.turning rate')
     record.winner = record'.winner ∧ record.duration = record'.duration ∧
      record.frameCount = record'.frameCount ∧ record.finalStates = record'.finalStates ∧
      record.damageLog = record'.damageLog ∧ record.commentary = record'.commentary ∧
      record.timedOut = record'.timedOut ∧
      record.frames.map Frame.unturned = record'.frames.map Frame.unturned) ∧
    ∀ (m : Battle) (n : Nat),
      let bare := steps n m.unturned
      let full := steps n m
      bare.decisions = full.decisions ∧ bare.world.contacts = full.world.contacts ∧
        bare.world.bodies.map (fun body => (body.motion.position, body.motion.velocity)) =
          full.world.bodies.map (fun body => (body.motion.position, body.motion.velocity)) ∧
        bare.states.map FighterState.unturned = full.states.map FighterState.unturned ∧
        bare.lastDamage = full.lastDamage ∧ bare.pushes = full.pushes := by
  constructor
  · intro record record'
    have begins : (battleOf a b arenaId c (config.turning rate)).unturned =
        (battleOf a b arenaId c (config.turning rate')).unturned :=
      start_turning (pairing a b (c.arenaOrFallback arenaId) c config) _ config rate rate'
    have same := congrArg result (run_congr begins)
    rw [result_unturned, result_unturned] at same
    obtain ⟨winner, duration, count, final, damage, commentary, timedOut, frames⟩ :=
      MatchResult.mk.inj same
    exact ⟨winner, duration, count, final, damage, commentary, timedOut, frames⟩
  · intro m n bare full
    have same : bare.unturned = full.unturned := steps_congr m.unturned_unturned n
    exact ⟨reading_congr same decisions decisions_unturned,
      reading_congr same (·.world.contacts) fun _ => rfl,
      reading_congr same
        (·.world.bodies.map fun body => (body.motion.position, body.motion.velocity))
        fun _ => List.map_map,
      reading_congr same (·.states.map FighterState.unturned) fun b => FighterState.map_unturned b.states,
      reading_congr same (·.lastDamage) fun _ => rfl, reading_congr same (·.pushes) fun _ => rfl⟩

end Battle

end RobotCombat
