/-
# RobotCombat.Fighter.State — a fighter during a match

Hit points lie between zero and their maximum, a fighter is destroyed exactly
when they reach zero, and cooldowns are never negative: `damage?`, `destroy`,
`trigger` and `cool` keep that.
-/
import RobotCombat.Fighter.Loadout
import RobotCombat.Fighter.Status

namespace RobotCombat

set_option autoImplicit false

open Number

/-- A fighter after a tick. -/
structure FighterState where
  id : String
  position : Vector2
  velocity : Vector2
  angle : Float32
  hp : Float32
  maxHp : Float32
  status : Status
  cooldowns : List Float32
  action : String
  rule : Option Nat
  deriving DecidableEq, Repr

namespace FighterState

/-- A fresh fighter: at rest, whole, with every weapon ready. -/
def spawn (id : String) (l : Loadout) (position : Vector2) : FighterState :=
  { id := id
    position := position
    velocity := .zero
    angle := 0
    hp := l.stats.maxHp
    maxHp := l.stats.maxHp
    status := .none
    cooldowns := l.weapons.map fun _ => 0
    action := ""
    rule := none }

def isAlive (s : FighterState) : Bool := !s.status.destroyed

/-- Hit points as a part of their maximum; zero if there is no maximum. -/
def hpFraction (s : FighterState) : Float32 :=
  if 0 < s.maxHp then s.hp / s.maxHp else 0

def speed (s : FighterState) : Float32 := s.velocity.length

/-- No hit points left. -/
def destroy (s : FighterState) : FighterState :=
  { s with hp := 0, status := { s.status with destroyed := true } }

/-- Takes damage, and says how many hit points it cost. A destroyed fighter and
damage that is not positive cost nothing. Where the maximum is negative there is
no range to keep hit points in, and no answer. -/
def damage? (s : FighterState) (amount : Float32) : Option (FighterState × Float32) :=
  if !s.isAlive || amount ≤ 0 then some (s, 0)
  else if 0 ≤ s.maxHp then
    let hit := { s with hp := clamp (s.hp - amount) 0 s.maxHp }
    let hit := if hit.hp ≤ 0 then hit.destroy else hit
    some (hit, s.hp - hit.hp)
  else none

/-- Whether the weapon in a slot has cooled down. -/
def isReady (s : FighterState) (slot : Nat) : Bool :=
  match s.cooldowns[slot]? with
  | some cooldown => cooldown ≤ 0
  | none => false

/-- Starts the cooldown of the weapon in a slot. -/
def trigger (s : FighterState) (slot : Nat) (cooldownMs : Float32) : FighterState :=
  { s with cooldowns := s.cooldowns.modify slot fun _ => larger cooldownMs 0 }

/-- Counts every cooldown down. -/
def cool (s : FighterState) (ms : Float32) : FighterState :=
  { s with cooldowns := s.cooldowns.map fun cooldown => larger (cooldown - ms) 0 }

end FighterState

end RobotCombat
