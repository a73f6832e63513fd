/-
# RobotCombat.Proofs.Match.Tick — one tick, and what a run of ticks keeps

A tick rewrites the states in three stages: they move with their bodies
(`moved`), the contacts are ruled on (`ruling`), and weapons cool down. This
module names the stages, says which fields each of them leaves alone, and carries
what a tick keeps over any number of ticks (`steps_invariant`). None of it depends
on hit points.

* `ids_tickOnce`: fighters keep their ids and places;
* `motions_tickOnce`: a fighter is where its body is;
* `steps_of_isFinished`: nothing happens to a match that is over.
-/
import RobotCombat.Match.Battle
import RobotCombat.Proofs.Damage.Change
import RobotCombat.Proofs.Physics.Bodies

namespace RobotCombat

set_option autoImplicit false

/-- Where a fighter is and how it moves. -/
def FighterState.motion (s : FighterState) : Motion := ⟨s.position, s.velocity, s.angle⟩

namespace Battle

/-! ## The stages of a tick -/

/-- What the fighters want to do in the next tick. -/
def intents (b : Battle) : List Intent := b.decisions.map (·.1)

/-- The world after the next tick. -/
def nextWorld (b : Battle) : World := (b.driven b.intents).step b.config.tickMs

/-- The states moved with their bodies. -/
def moved (b : Battle) : List FighterState :=
  b.states.zipIdx.map fun (s, place) => carried b.nextWorld b.intents s place

/-- What the ruling on the next tick looks at. -/
def scene (b : Battle) : Scene :=
  ⟨b.roster, b.arena, b.config.timeAt (b.tick + 1), b.config.physics.forcePerSpeed⟩

/-- The ruling on the next tick. -/
def ruling (b : Battle) : Ruling :=
  .ofContacts b.scene b.states b.moved b.nextWorld.contacts

/-- The states after the next tick. -/
def settled (b : Battle) : List FighterState := b.ruling.states.map (·.cool b.config.tickMs)

/-- How the match stands after the next tick. -/
def verdict (b : Battle) : Option Outcome := outcomeOf? b.config (b.tick + 1) b.settled

variable (b : Battle)

/-- A tick in terms of its stages. -/
theorem tickOnce_eq :
    b.tickOnce =
      { b with
        controllers := b.decisions.map (·.2)
        world := b.nextWorld
        states := b.settled
        previous := b.states
        pushes := b.ruling.pushes
        narrator := conclude (b.narrator.observe b.scene.timestamp b.ruling.damage b.settled)
          b.scene.timestamp b.settled b.verdict
        damageLog := b.damageLog ++ b.ruling.damage
        lastDamage := b.ruling.damage
        frames :=
          if b.config.recordFrames then
            b.frames.push ⟨b.tick + 1, b.scene.timestamp, b.settled, b.ruling.damage⟩
          else b.frames
        tick := b.tick + 1
        outcome := b.verdict
        unscorable := b.unscorable || b.ruling.unscorable } := by
  unfold tickOnce
  rfl

theorem tickOnce_states : b.tickOnce.states = b.settled := by rw [tickOnce_eq]

theorem tickOnce_world : b.tickOnce.world = b.nextWorld := by rw [tickOnce_eq]

theorem tickOnce_outcome : b.tickOnce.outcome = b.verdict := by rw [tickOnce_eq]

theorem tickOnce_tick : b.tickOnce.tick = b.tick + 1 := by rw [tickOnce_eq]

theorem tickOnce_config : b.tickOnce.config = b.config := by rw [tickOnce_eq]

theorem tickOnce_roster : b.tickOnce.roster = b.roster := by rw [tickOnce_eq]

theorem tickOnce_arena : b.tickOnce.arena = b.arena := by rw [tickOnce_eq]

theorem tickOnce_log :
    b.tickOnce.damageLog.toList = b.damageLog.toList ++ b.ruling.damage := by
  rw [tickOnce_eq]
  exact Array.toList_appendList

/-! ## Lengths -/

/-- A reading of the world that no push and no turn changes is the same when all
fighters have driven. -/
theorem driven_keeps {β : Type} (reading : World → β)
    (pushed : ∀ w place force, reading (World.push w place force) = reading w)
    (spun : ∀ w place omega, reading (World.spin w place omega) = reading w)
    (intents : List Intent) : reading (b.driven intents) = reading b.world := by
  have drives : ∀ (w : World) (i : Intent × Nat), reading (b.drive w i.1 i.2) = reading w := by
    intro w i
    unfold drive
    split
    · split
      · rw [spun, pushed]
      · rfl
    · rfl
  have driven := foldl_keeps (fun w (i : Intent × Nat) => b.drive w i.1 i.2) reading drives
    intents.zipIdx b.world
  have kicked := foldl_keeps (fun w (p : Nat × Vector2) => w.push p.1 p.2) reading
    (fun w p => pushed w p.1 p.2) b.pushes
  exact (kicked _).trans driven

theorem length_nextWorld : b.nextWorld.bodies.length = b.world.bodies.length := by
  unfold nextWorld
  rw [World.length_step]
  exact b.driven_keeps (·.bodies.length) World.length_push World.length_spin b.intents

theorem length_controllers : b.tickOnce.controllers.length = b.controllers.length := by
  rw [tickOnce_eq]
  unfold decisions
  rw [List.length_map, List.length_map, List.length_zipIdx]

/-! ## What the first stage leaves alone -/

section Carried

variable (w : World) (intents : List Intent) (s : FighterState) (place : Nat)

/-- Moving along changes neither the fighter nor its condition. -/
theorem carried_keeps :
    (carried w intents s place).id = s.id ∧ (carried w intents s place).hp = s.hp ∧
      (carried w intents s place).maxHp = s.maxHp ∧
      (carried w intents s place).status = s.status.forNewTick ∧
      (carried w intents s place).cooldowns = s.cooldowns := by
  unfold carried
  cases w.motion? place <;> cases intents[place]? <;> dsimp only <;>
    first
    | exact ⟨rfl, rfl, rfl, rfl, rfl⟩
    | split <;> exact ⟨rfl, rfl, rfl, rfl, rfl⟩

theorem carried_motion {m : Motion} (here : w.motion? place = some m) :
    (carried w intents s place).motion = m := by
  unfold carried
  rw [here]
  cases intents[place]? with
  | none => rfl
  | some intent =>
      dsimp only
      split <;> rfl

theorem sound_carried {e : Entrant} {s : FighterState} (good : s.Sound e) :
    (carried w intents s place).Sound e := by
  obtain ⟨id, hp, maxHp, status, cooldowns⟩ := carried_keeps w intents s place
  exact good.congr id hp maxHp (by rw [status]; rfl) cooldowns

end Carried

/-! ## Identity and motion -/

/-- A reading of states that no ruling and no cooling touches is that of the states
as they moved. -/
theorem map_tickOnce {α : Type} (f : FighterState → α) (ruled : ∀ s, f s.outside = f s)
    (cooled : ∀ s ms, f (s.cool ms) = f s) : b.tickOnce.states.map f = b.moved.map f := by
  have unruled : ∀ states : List FighterState,
      states.map f = (states.map FighterState.outside).map f := by
    intro states
    rw [List.map_map]
    exact List.map_congr_left fun s _ => (ruled s).symm
  have kept := (Ruling.ofContacts_reaches b.scene b.states b.moved b.nextWorld.contacts).outside
  rw [tickOnce_states, settled, List.map_map]
  calc b.ruling.states.map (f ∘ fun s => s.cool b.config.tickMs)
      = b.ruling.states.map f := List.map_congr_left fun s _ => cooled s _
    _ = (b.ruling.states.map FighterState.outside).map f := unruled _
    _ = (b.moved.map FighterState.outside).map f := congrArg (List.map f) kept
    _ = b.moved.map f := (unruled _).symm

theorem length_moved : b.moved.length = b.states.length := by
  unfold moved
  rw [List.length_map, List.length_zipIdx]

/-- Fighters keep their ids and places. -/
theorem ids_tickOnce : b.tickOnce.states.map (·.id) = b.states.map (·.id) := by
  rw [b.map_tickOnce (·.id) (fun _ => rfl) fun _ _ => rfl]
  apply List.ext_getElem?
  intro place
  unfold moved
  rw [List.getElem?_map, List.getElem?_map, List.getElem?_map, List.getElem?_zipIdx]
  cases b.states[place]? with
  | none => rfl
  | some s => exact congrArg some (carried_keeps _ _ s _).1

/-- A fighter is where its body is. -/
theorem motions_tickOnce (aligned : b.states.length = b.world.bodies.length) :
    b.tickOnce.states.map FighterState.motion = b.tickOnce.world.bodies.map (·.motion) := by
  rw [b.map_tickOnce FighterState.motion (fun _ => rfl) fun _ _ => rfl, tickOnce_world]
  have length : b.moved.length = b.nextWorld.bodies.length := by
    rw [length_moved, aligned, length_nextWorld]
  apply List.ext_getElem
  · rw [List.length_map, List.length_map, length]
  · intro place inside inside'
    rw [List.getElem_map, List.getElem_map]
    have known : place < b.nextWorld.bodies.length := by
      rw [List.length_map] at inside'
      exact inside'
    have here : b.nextWorld.motion? place = some (b.nextWorld.bodies[place]).motion := by
      unfold World.motion?
      rw [List.getElem?_eq_getElem known, Option.map_some]
    unfold moved
    rw [List.getElem_map, List.getElem_zipIdx]
    rw [Nat.zero_add]
    exact carried_motion _ _ _ _ here

/-! ## Runs -/

theorem step_of_not_isFinished {b : Battle} (going : b.isFinished = false) :
    b.step = b.tickOnce := by
  unfold step
  rw [going]
  rfl

/-- Stepping a match that is over changes nothing. -/
theorem step_of_isFinished {b : Battle} (ended : b.isFinished = true) : b.step = b := by
  unfold step
  rw [if_pos ended]

theorem steps_of_isFinished {b : Battle} (ended : b.isFinished = true) :
    ∀ n, steps n b = b
  | 0 => rfl
  | n + 1 => by
      rw [steps, step_of_isFinished ended]
      exact steps_of_isFinished ended n

theorem steps_succ : ∀ (n : Nat) (b : Battle), steps (n + 1) b = (steps n b).step
  | 0, _ => rfl
  | n + 1, b => steps_succ n b.step

/-- As long as a match goes on its next step is a tick. -/
theorem steps_succ_of_going {n : Nat} {b : Battle} (going : (steps n b).isFinished = false) :
    steps (n + 1) b = (steps n b).tickOnce := by
  rw [steps_succ, step_of_not_isFinished going]

theorem steps_add (m : Nat) : ∀ (n : Nat) (b : Battle), steps (n + m) b = steps m (steps n b)
  | 0, b => by rw [Nat.zero_add, steps]
  | n + 1, b => by
      rw [Nat.succ_add]
      exact steps_add m n b.step

/-- What every real tick keeps holds after any number of steps. -/
theorem steps_invariant {P : Battle → Prop}
    (keeps : ∀ b : Battle, b.isFinished = false → P b → P b.tickOnce) :
    ∀ (n : Nat) {b : Battle}, P b → P (steps n b)
  | 0, _, initial => initial
  | n + 1, b, initial => by
      cases going : b.isFinished with
      | true =>
          rw [steps_of_isFinished going]
          exact initial
      | false =>
          rw [steps, step_of_not_isFinished going]
          exact steps_invariant keeps n (keeps b going initial)

theorem steps_config (n : Nat) : (steps n b).config = b.config :=
  steps_invariant (P := fun b' => b'.config = b.config)
    (fun b' _ same => b'.tickOnce_config.trans same) n rfl

theorem steps_ids (n : Nat) : (steps n b).states.map (·.id) = b.states.map (·.id) :=
  steps_invariant (P := fun b' => b'.states.map (·.id) = b.states.map (·.id))
    (fun b' _ same => b'.ids_tickOnce.trans same) n rfl

end Battle

end RobotCombat
