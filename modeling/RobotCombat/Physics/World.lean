/-
# RobotCombat.Physics.World — circles in a walled rectangle

A step moves every body, then lets bodies bounce off each other in the order of
their places, then off the walls, and then looks which sensors they reach.
Sensors never push.

Each of the three passes appends what it finds. `step` sorts all of it by body and
by what the body touches, and takes it down in this order. A contact persists if
its pair is in the set `touching`, which the step before left.
-/
import RobotCombat.Catalog.Part
import RobotCombat.Physics.Contact
import RobotCombat.Plane.Angle

namespace RobotCombat

set_option autoImplicit false

open Number

/-- The length of a tick at sixty per second. -/
def tickMs : Float32 := 1000 / 60

/-- How bodies move. -/
structure PhysicsSettings where
  forcePerSpeed : Float32
  airFriction : Float32
  restitution : Float32
  turnRate : Float32
  maxSpeed : Float32
  deriving DecidableEq, Repr

/-- The usual motion. -/
def PhysicsSettings.usual : PhysicsSettings := ⟨5, 0.05, 0.8, 0.1, 20⟩

/-- Position, velocity in units per tick, and heading of a body. -/
structure Motion where
  position : Vector2
  velocity : Vector2
  angle : Float32
  deriving DecidableEq, Repr

/-- A moving circle. Forces add up until the next step uses them. -/
structure Body where
  motion : Motion
  radius : Float32
  inverseMass : Float32
  force : Vector2
  omega : Float32
  deriving DecidableEq, Repr

namespace Body

/-- A body at rest. Without a positive mass nothing moves it. -/
def rest (position : Vector2) (radius mass : Float32) : Body :=
  { motion := ⟨position, .zero, 0⟩
    radius := larger radius 0
    inverseMass := if 0 < mass then 1 / mass else 0
    force := .zero
    omega := 0 }

def push (b : Body) (force : Vector2) : Body := { b with force := b.force + force }

def spin (b : Body) (omega : Float32) : Body := { b with omega := omega }

def withVelocity (b : Body) (velocity : Vector2) : Body :=
  { b with motion := { b.motion with velocity := velocity } }

/-- The body moved to another place with another velocity. -/
def moved (b : Body) (position velocity : Vector2) : Body :=
  { b with motion := { b.motion with position := position, velocity := velocity } }

/-- The velocity after one step of `scale` ticks. -/
def nextVelocity (p : PhysicsSettings) (scale : Float32) (b : Body) : Vector2 :=
  let damping := larger (1 - p.airFriction * scale) 0
  let acceleration := b.force * b.inverseMass
  let velocity := (b.motion.velocity + acceleration * scale) * damping
  if 0 < p.maxSpeed then velocity.limitLength p.maxSpeed else velocity

/-- The body after one step of `scale` ticks, its force used up. -/
def advance (p : PhysicsSettings) (scale : Float32) (b : Body) : Body :=
  let velocity := b.nextVelocity p scale
  { b with
    motion :=
      { position := b.motion.position + velocity * scale
        velocity := velocity
        angle := Angle.wrap (b.motion.angle + b.omega * scale) }
    force := .zero }

/-- Pushes two overlapping bodies apart along a direction, in inverse proportion
to their masses, and lets them bounce if they close in. -/
def separate (p : PhysicsSettings) (normal : Vector2) (overlap total : Float32) (a b : Body) :
    Body × Body :=
  let placeA := a.motion.position - normal * overlap * (a.inverseMass / total)
  let placeB := b.motion.position + normal * overlap * (b.inverseMass / total)
  let closing := (b.motion.velocity - a.motion.velocity).dot normal
  if closing < 0 then
    let impulse := -(1 + p.restitution) * closing / total
    (a.moved placeA (a.motion.velocity - normal * impulse * a.inverseMass),
      b.moved placeB (b.motion.velocity + normal * impulse * b.inverseMass))
  else (a.moved placeA a.motion.velocity, b.moved placeB b.motion.velocity)

/-- Two bodies after they met, with their relative speed before; none if they do
not overlap. -/
def collide? (p : PhysicsSettings) (a b : Body) : Option (Body × Body × Float32) :=
  let delta := b.motion.position - a.motion.position
  let distance := delta.length
  let reach := a.radius + b.radius
  if reach ≤ distance then none
  else
    let speed := (a.motion.velocity - b.motion.velocity).length
    let normal := if 0 < distance then delta / distance else .right
    let total := a.inverseMass + b.inverseMass
    if 0 < total then
      let (a, b) := separate p normal (reach - distance) total a b
      some (a, b, speed)
    else some (a, b, speed)

end Body

/-- The inner edges of the walls. -/
structure Bounds where
  low : Vector2
  high : Vector2
  deriving DecidableEq, Repr

namespace Bounds

def ofArena (a : Arena) : Bounds :=
  ⟨⟨a.wallThickness, a.wallThickness⟩, ⟨a.width - a.wallThickness, a.height - a.wallThickness⟩⟩

/-- Where a wall stands along its inward normal. -/
def plane (b : Bounds) : WallSide → Float32
  | .left => b.low.x
  | .right => -b.high.x
  | .top => b.low.y
  | .bottom => -b.high.y

end Bounds

/-- A body after it met a wall, with the speed of impact; none if it does not
reach the wall. -/
def Body.collideWall? (p : PhysicsSettings) (bounds : Bounds) (side : WallSide) (b : Body) :
    Option (Body × Float32) :=
  let normal := side.inwardNormal
  let gap := b.motion.position.dot normal - bounds.plane side - b.radius
  if 0 ≤ gap then none
  else
    let normalSpeed := b.motion.velocity.dot normal
    let position := b.motion.position - normal * gap
    let velocity :=
      if normalSpeed < 0 then b.motion.velocity - normal * (1 + p.restitution) * normalSpeed
      else b.motion.velocity
    some (b.moved position velocity, larger (-normalSpeed) 0)

/-- A body after the given walls in order, with the walls it met. -/
def Body.collideWalls (p : PhysicsSettings) (bounds : Bounds) :
    List WallSide → Body → Body × List (WallSide × Float32)
  | [], b => (b, [])
  | side :: sides, b =>
    match b.collideWall? p bounds side with
    | none => b.collideWalls p bounds sides
    | some (b, impact) =>
      let (b, met) := b.collideWalls p bounds sides
      (b, (side, impact) :: met)

/-- A rectangle that notices bodies. -/
structure Sensor where
  low : Vector2
  high : Vector2
  deriving DecidableEq, Repr

namespace Sensor

/-- The rectangle around a center. The sign of a size does not count. -/
def around (center size : Vector2) : Sensor :=
  let half := size.abs * (0.5 : Float32)
  ⟨center - half, center + half⟩

/-- Whether a circle reaches into the rectangle. -/
def overlaps (s : Sensor) (center : Vector2) (radius : Float32) : Bool :=
  let near := center.clamp s.low s.high
  near.distanceSquared center ≤ radius * radius

end Sensor

/-- The bodies and sensors inside the walls, the contacts of the last step, and the set of
the pairs that touched in it. -/
structure World where
  settings : PhysicsSettings
  bounds : Bounds
  bodies : List Body
  sensors : List Sensor
  contacts : List Contact
  touching : List (Nat × Touched)
  deriving DecidableEq, Repr

namespace World

/-- The world of an arena, with a sensor for each of its hazards in order. -/
def ofArena (a : Arena) (p : PhysicsSettings) : World :=
  { settings := p
    bounds := .ofArena a
    bodies := []
    sensors := a.hazards.map fun h => .around h.position h.size
    contacts := []
    touching := [] }

def addBody (w : World) (position : Vector2) (radius mass : Float32) : World :=
  { w with bodies := w.bodies ++ [.rest position radius mass] }

def addSensor (w : World) (center size : Vector2) : World :=
  { w with sensors := w.sensors ++ [.around center size] }

/-- Changes the body at a place; where there is none, nothing. -/
def modifyBody (w : World) (place : Nat) (change : Body → Body) : World :=
  { w with bodies := w.bodies.modify place change }

def push (w : World) (place : Nat) (force : Vector2) : World :=
  w.modifyBody place (·.push force)

def spin (w : World) (place : Nat) (omega : Float32) : World :=
  w.modifyBody place (·.spin omega)

def setVelocity (w : World) (place : Nat) (velocity : Vector2) : World :=
  w.modifyBody place (·.withVelocity velocity)

/-- The motion of the body at a place. -/
def motion? (w : World) (place : Nat) : Option Motion :=
  w.bodies[place]?.map (·.motion)

/-- A touching pair with its speed. -/
structure Meeting where
  body : Nat
  other : Touched
  speed : Float32
  deriving DecidableEq, Repr

namespace Meeting

def pair (m : Meeting) : Nat × Touched := (m.body, m.other)

/-- The order by body, and for one body by what it touches. -/
def order (m m' : Meeting) : Ordering :=
  (compare m.body m'.body).then (compare m.other m'.other)

/-- Puts a meeting into a sorted list, before those that it does not come after. -/
def insert (m : Meeting) : List Meeting → List Meeting
  | [] => [m]
  | m' :: sorted => if (m.order m').isLE then m :: m' :: sorted else m' :: m.insert sorted

/-- Sorts meetings. Those of the same pair keep their order. -/
def sort : List Meeting → List Meeting
  | [] => []
  | m :: ms => m.insert (sort ms)

/-- A meeting as a contact, given the pairs that touched in the step before. -/
def toContact (previous : List (Nat × Touched)) (m : Meeting) : Contact :=
  { body := m.body
    other := m.other
    phase := if previous.contains m.pair then .persisting else .begun
    speed := m.speed }

end Meeting

/-- The pairs of places below a count, the lower place first, in rising order. -/
def placePairs (count : Nat) : List (Nat × Nat) :=
  (List.range count).flatMap fun i =>
    (List.range (count - (i + 1))).map fun k => (i, i + 1 + k)

/-- Lets the bodies of one pair of places meet. -/
def meetPair (p : PhysicsSettings) (bodies : List Body) (pair : Nat × Nat) :
    List Body × Option Meeting :=
  match bodies[pair.1]?, bodies[pair.2]? with
  | some a, some b =>
    match a.collide? p b with
    | some (a, b, speed) =>
      ((bodies.set pair.1 a).set pair.2 b, some ⟨pair.1, .body pair.2, speed⟩)
    | none => (bodies, none)
  | _, _ => (bodies, none)

/-- Lets the bodies of pairs of places meet in order. -/
def meetPairs (p : PhysicsSettings) (bodies : List Body) :
    List (Nat × Nat) → List Body × List Meeting
  | [] => (bodies, [])
  | pair :: pairs =>
    let (bodies, met) := meetPair p bodies pair
    let (bodies, later) := meetPairs p bodies pairs
    (bodies, met.toList ++ later)

/-- Lets every body meet the walls. -/
def meetWalls (p : PhysicsSettings) (bounds : Bounds) (bodies : List Body) :
    List Body × List Meeting :=
  let walled := bodies.map (·.collideWalls p bounds WallSide.all)
  (walled.map (·.1), walled.zipIdx.flatMap fun (after, place) =>
    after.2.map fun (side, impact) => ⟨place, .wall side, impact⟩)

/-- The sensors that a body reaches, the first one having the given place. -/
def sensed (b : Body) (place : Nat) : List Sensor → List Nat
  | [] => []
  | s :: sensors =>
    if s.overlaps b.motion.position b.radius then place :: sensed b (place + 1) sensors
    else sensed b (place + 1) sensors

/-- The meetings of bodies with sensors. -/
def meetSensors (sensors : List Sensor) (bodies : List Body) : List Meeting :=
  bodies.zipIdx.flatMap fun (b, place) =>
    (sensed b 0 sensors).map fun s => ⟨place, .sensor s, b.motion.velocity.length⟩

/-- Takes a meeting down, given the pairs that touched in the step before. -/
def takeDown (previous : List (Nat × Touched)) (w : World) (m : Meeting) : World :=
  { w with
    contacts := w.contacts ++ [m.toContact previous]
    touching := w.touching.insert m.pair }

/-- Advances the world by a time. -/
def step (w : World) (dtMs : Float32) : World :=
  let scale := dtMs / tickMs
  let advanced := w.bodies.map (·.advance w.settings scale)
  let (met, others) := meetPairs w.settings advanced (placePairs advanced.length)
  let (walled, walls) := meetWalls w.settings w.bounds met
  let found := others ++ walls ++ meetSensors w.sensors walled
  (Meeting.sort found).foldl (takeDown w.touching)
    { w with bodies := walled, contacts := [], touching := [] }

end World

end RobotCombat
