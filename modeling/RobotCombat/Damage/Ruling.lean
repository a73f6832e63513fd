/-
# RobotCombat.Damage.Ruling — what the contacts of a tick do to the fighters

A ruling starts from the fighters as they moved and grows contact by contact: the
states so far, the damage in the order in which it was dealt, and the pushes that
the next tick will feel. `hit` is the only way to take hit points off a fighter
that leaves it some, and it records what it takes.

`unscorable` is set once damage has reached a fighter whose hit points have a
negative maximum. No fighter built from a catalog that loads is one.
-/
import RobotCombat.Damage.Event
import RobotCombat.Fighter.Roster
import RobotCombat.Physics.Contact

namespace RobotCombat

set_option autoImplicit false

/-- What the rules of damage look at besides states and contacts. -/
structure Scene where
  roster : Roster
  arena : Arena
  timestamp : Float32
  forcePerSpeed : Float32
  deriving DecidableEq, Repr

/-- The effects of a tick's contacts so far. -/
structure Ruling where
  states : List FighterState
  damage : List DamageEvent
  pushes : List (Nat × Vector2)
  unscorable : Bool
  deriving DecidableEq, Repr

namespace Ruling

/-- Nothing has happened yet. -/
def start (states : List FighterState) : Ruling := ⟨states, [], [], false⟩

/-- Changes the state at a place; where there is none, nothing. -/
def modify (r : Ruling) (place : Nat) (change : FighterState → FighterState) : Ruling :=
  { r with states := r.states.modify place change }

/-- Adds a mark. -/
def mark (r : Ruling) (place : Nat) (change : Status → Status) : Ruling :=
  r.modify place fun s => { s with status := change s.status }

/-- Deals damage through armor and records it. A destroyed target and damage that
comes to nothing leave the ruling as it is. -/
def hit (scene : Scene) (attacker : Option Nat) (target : Nat) (raw : Float32) (cause : Cause)
    (r : Ruling) : Ruling :=
  match scene.roster.get? target, r.states[target]? with
  | some entrant, some state =>
    let applied := armorReduced raw entrant.stats.damageReduction
    if !state.isAlive || raw ≤ 0 || applied ≤ 0 then r
    else
      match state.damage? applied with
      | none => { r with unscorable := true }
      | some (hurt, _) =>
        { r with
          states := r.states.set target hurt
          damage := r.damage ++
            [{ attacker := (attacker.bind scene.roster.get?).map Entrant.id
               target := entrant.id
               damage := applied
               cause := cause
               timestamp := scene.timestamp }] }
  | _, _ => r

end Ruling

end RobotCombat
