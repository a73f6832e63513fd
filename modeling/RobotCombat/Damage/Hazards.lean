/-
# RobotCombat.Damage.Hazards — the arena hurts fighters, after they hurt each other

A wall hurts once when a fighter runs into it faster than `wallThreshold`. A
spike zone hurts on every tick. A pit destroys, whatever the armor, and the hit
points that were left are recorded as its damage.

`Ruling.ofContacts` is the whole ruling on a tick.
-/
import RobotCombat.Damage.Combat

namespace RobotCombat

set_option autoImplicit false

/-- Impacts at this speed or below do no harm. -/
def wallThreshold : Float32 := 8

/-- The damage of a spike zone without a rating, per tick. -/
def unratedSpikes : Float32 := 0.5

namespace Hazards

/-- A fighter runs into a wall. -/
def wall (scene : Scene) (c : Contact) (r : Ruling) : Ruling :=
  if !c.isNew || c.speed ≤ wallThreshold then r
  else r.hit scene none c.body ((c.speed - wallThreshold) * 2) .wall

/-- The damage of a spike zone in one tick. -/
def spikeDamage (rating : Option Float32) : Float32 :=
  match rating with
  | some d => d * 0.1
  | none => unratedSpikes

/-- A fighter stands on spikes. -/
def spikes (scene : Scene) (place : Nat) (rating : Option Float32) (r : Ruling) : Ruling :=
  (r.mark place fun s => { s with onSpikes := true }).hit scene none place (spikeDamage rating)
    .spikes

/-- The state of a fighter that fell into a pit. -/
def fallen (s : FighterState) : FighterState :=
  let s := s.destroy
  { s with status := { s.status with inPit := true } }

/-- A fighter falls into a pit. -/
def pit (scene : Scene) (place : Nat) (r : Ruling) : Ruling :=
  match r.states[place]? with
  | some s =>
    if s.isAlive then
      { r with
        states := r.states.set place (fallen s)
        damage := r.damage ++
          [{ attacker := none, target := s.id, damage := s.hp, cause := .pit,
             timestamp := scene.timestamp }] }
    else r
  | none => r

/-- The effects of one contact. Only walls and sensors are dealt with here; a
sensor stands for the hazard of its place. -/
def resolveContact (scene : Scene) (r : Ruling) (c : Contact) : Ruling :=
  match c.other with
  | .wall _ => wall scene c r
  | .sensor place =>
    match scene.arena.hazards[place]? with
    | some h =>
      match h.kind with
      | .spike => spikes scene c.body h.damage r
      | .pit => pit scene c.body r
    | none => r
  | .body _ => r

/-- The effects of the contacts with walls and zones, in order. -/
def resolve (scene : Scene) (contacts : List Contact) (r : Ruling) : Ruling :=
  contacts.foldl (resolveContact scene) r

end Hazards

/-- The ruling on the contacts of a tick: first what fighters do to each other,
then what the arena does to them. Facts about fighters are read from `current`;
`next` is where they moved to. -/
def Ruling.ofContacts (scene : Scene) (current next : List FighterState)
    (contacts : List Contact) : Ruling :=
  .start next |> Combat.resolve scene current contacts |> Hazards.resolve scene contacts

end RobotCombat
