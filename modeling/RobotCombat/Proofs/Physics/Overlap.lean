/-
# RobotCombat.Proofs.Physics.Overlap — the zone of a hazard and the sensor for it

A hazard and the sensor of its zone ask the same question of a circle, how far it is from
the nearest point of a rectangle. They draw the rectangle differently: the sensor from the
size without its sign, the hazard from the size as it stands, so that a negative size
exchanges the two edges of an axis (`rectangle_level`). What is left between the signs of
zeros does not count, since the nearest point is found by comparisons.

* `zone_follows_sensor`: the two agree on every circle where no size is below zero, and
  elsewhere once the edges of the sensor are exchanged, so that two negative sizes leave of
  the zone its lower corner;
* `inverted_pit_differs`: a catalog with a negative size loads, and its pit leaves out a
  circle in its middle that the sensor notices.
-/
import RobotCombat.Catalog.Exchange
import RobotCombat.Physics.World
import RobotCombat.Proofs.Number.Sign

namespace RobotCombat

set_option autoImplicit false

open Number

namespace Sensor

/-- The rectangle with its edges exchanged along each axis of negative size. -/
def turned (s : Sensor) (size : Vector2) : Sensor :=
  { low := ⟨if size.x < 0 then s.high.x else s.low.x, if size.y < 0 then s.high.y else s.low.y⟩
    high := ⟨if size.x < 0 then s.low.x else s.high.x, if size.y < 0 then s.low.y else s.high.y⟩ }

theorem turned_of_not_negative {size : Vector2} (hx : ¬ size.x < 0) (hy : ¬ size.y < 0)
    (s : Sensor) : s.turned size = s := by
  unfold turned
  simp only [if_neg hx, if_neg hy]

/-- Level points are within reach of the same circles. -/
theorem distanceSquared_le_iff {v w : Vector2} (hx : Level v.x w.x) (hy : Level v.y w.y)
    (center : Vector2) (radius : Float32) :
    v.distanceSquared center ≤ radius * radius ↔ w.distanceSquared center ≤ radius * radius := by
  have across : Level (v.x - center.x) (w.x - center.x) := hx.sub (Level.refl center.x)
  have along : Level (v.y - center.y) (w.y - center.y) := hy.sub (Level.refl center.y)
  have squared := (across.mul across).add (along.mul along)
  exact squared.le_iff (Level.refl (radius * radius))

/-- Of a rectangle turned along both axes nothing is left but its lower corner, since
clamping moves every point there. -/
theorem overlaps_turned {s : Sensor} {size : Vector2} (hx : size.x < 0) (hy : size.y < 0)
    (across : s.low.x ≤ s.high.x) (along : s.low.y ≤ s.high.y) (center : Vector2)
    (radius : Float32) : (s.turned size).overlaps center radius =
      decide (s.low.distanceSquared center ≤ radius * radius) := by
  unfold turned
  rw [if_pos hx, if_pos hx, if_pos hy, if_pos hy]
  exact decide_eq_decide.mpr (distanceSquared_le_iff
    (v := center.clamp ⟨s.high.x, s.high.y⟩ ⟨s.low.x, s.low.y⟩) (w := s.low)
    (smaller_larger_level across center.x) (smaller_larger_level along center.y) center radius)

/-- The same edges, up to the signs of zeros. -/
structure LevelWith (s s' : Sensor) : Prop where
  left : Level s.low.x s'.low.x
  top : Level s.low.y s'.low.y
  right : Level s.high.x s'.high.x
  bottom : Level s.high.y s'.high.y

/-- Rectangles with the same edges notice the same circles. -/
theorem LevelWith.overlaps {s s' : Sensor} (level : s.LevelWith s') (center : Vector2)
    (radius : Float32) : s.overlaps center radius = s'.overlaps center radius := by
  have nearX : Level (smaller (larger center.x s.low.x) s.high.x)
      (smaller (larger center.x s'.low.x) s'.high.x) :=
    ((Level.refl center.x).larger level.left).smaller level.right
  have nearY : Level (smaller (larger center.y s.low.y) s.high.y)
      (smaller (larger center.y s'.low.y) s'.high.y) :=
    ((Level.refl center.y).larger level.top).smaller level.bottom
  exact decide_eq_decide.mpr (distanceSquared_le_iff (v := center.clamp s.low s.high)
    (w := center.clamp s'.low s'.high) nearX nearY center radius)

end Sensor

namespace Hazard

/-- The rectangle from which a hazard looks for the nearest point. -/
def rectangle (h : Hazard) : Sensor :=
  ⟨h.position - h.size * (0.5 : Float32), h.position + h.size * (0.5 : Float32)⟩

theorem overlapsCircle_eq (h : Hazard) (center : Vector2) (radius : Float32) :
    h.overlapsCircle center radius = h.rectangle.overlaps center radius := rfl

/-- The edges along one axis: those of the size without its sign, exchanged where the size
is negative. -/
theorem edges_level (p size : Float32) :
    Level (p - size * 0.5)
        (if size < 0 then p + size.abs * 0.5 else p - size.abs * 0.5) ∧
      Level (p + size * 0.5)
        (if size < 0 then p - size.abs * 0.5 else p + size.abs * 0.5) := by
  by_cases below : size < 0
  · rw [if_pos below, if_pos below, abs_of_negative below, neg_mul_eq, add_neg_eq, sub_neg_eq]
    exact ⟨Level.refl _, Level.refl _⟩
  · rw [if_neg below, if_neg below]
    have half : Level (size * 0.5) (size.abs * 0.5) :=
      (abs_level below).symm.mul (Level.refl 0.5)
    exact ⟨(Level.refl p).sub half, (Level.refl p).add half⟩

/-- The rectangle of a hazard is that of its sensor, turned by its negative sizes. -/
theorem rectangle_level (h : Hazard) :
    h.rectangle.LevelWith ((Sensor.around h.position h.size).turned h.size) := by
  obtain ⟨left, right⟩ := edges_level h.position.x h.size.x
  obtain ⟨top, bottom⟩ := edges_level h.position.y h.size.y
  exact ⟨left, top, right, bottom⟩

/-- The zone of a hazard takes in the circles that its sensor notices, turned by its
negative sizes; without any just those that the sensor notices, and with two of them, where
the sensor has its edges in order, no more than those that reach its lower corner. -/
theorem zone_follows_sensor (a : Arena) (p : PhysicsSettings) {place : Nat} {h : Hazard}
    (zone : a.hazards[place]? = some h) :
    ∃ s, (World.ofArena a p).sensors[place]? = some s ∧
      (∀ center radius,
        h.overlapsCircle center radius = (s.turned h.size).overlaps center radius) ∧
      (¬ h.size.x < 0 → ¬ h.size.y < 0 → ∀ center radius,
        h.overlapsCircle center radius = s.overlaps center radius) ∧
      (h.size.x < 0 → h.size.y < 0 → s.low.x ≤ s.high.x → s.low.y ≤ s.high.y →
        ∀ center radius, h.overlapsCircle center radius =
          decide (s.low.distanceSquared center ≤ radius * radius)) := by
  have registered : (World.ofArena a p).sensors[place]? =
      some (.around h.position h.size) := by
    show (a.hazards.map fun h => Sensor.around h.position h.size)[place]? = _
    rw [List.getElem?_map, zone]
    rfl
  have follows : ∀ center radius, h.overlapsCircle center radius =
      ((Sensor.around h.position h.size).turned h.size).overlaps center radius :=
    fun center radius =>
      (h.overlapsCircle_eq center radius).trans (h.rectangle_level.overlaps center radius)
  refine ⟨_, registered, follows, fun hx hy => ?_, fun hx hy across along center radius => ?_⟩
  · rw [Sensor.turned_of_not_negative hx hy] at follows
    exact follows
  · rw [follows]
    exact Sensor.overlaps_turned hx hy across along center radius

/-- Spikes along a line, whose breadth is the zero below zero. -/
def thorns : Hazard := ⟨.spike, ⟨200, 150⟩, ⟨60, -0.0⟩, some 5⟩

/-- A pit whose size has both signs wrong. -/
def sunken : Hazard := ⟨.pit, ⟨400, 300⟩, ⟨-40, -40⟩, none⟩

/-- A floor with both. -/
def pitfall : Arena := ⟨800, 600, 20, [sunken, thorns]⟩

/-- A negative zero is no negative size, and of the pit only a corner is left. -/
theorem pitfall_follows_sensors :
    (∃ s, (World.ofArena pitfall .usual).sensors[1]? = some s ∧
      (∀ center radius, thorns.overlapsCircle center radius = s.overlaps center radius) ∧
      s.overlaps ⟨180, 152⟩ 2 = true) ∧
    ∃ s, (World.ofArena pitfall .usual).sensors[0]? = some s ∧
      ∀ center radius, sunken.overlapsCircle center radius =
        decide (s.low.distanceSquared center ≤ radius * radius) := by
  have second : pitfall.hazards[1]? = some thorns := rfl
  have first : pitfall.hazards[0]? = some sunken := rfl
  constructor
  · obtain ⟨s, registered, -, agree, -⟩ := zone_follows_sensor pitfall .usual second
    have same := agree (by decide) (by decide)
    refine ⟨s, registered, same, ?_⟩
    rw [← same]
    decide +kernel
  · obtain ⟨s, registered, -, -, corner⟩ := zone_follows_sensor pitfall .usual first
    obtain rfl : Sensor.around sunken.position sunken.size = s := Option.some.inj registered
    exact ⟨_, registered, corner (by decide) (by decide) (by decide +kernel) (by decide +kernel)⟩

/-- A catalog whose only arena has the pit of negative size. -/
def inverted : String :=
  "\x7b\"arenas\":\x7b\"inverted\":\x7b\"width\":800,\"height\":600,\"wallThickness\":20," ++
    "\"hazards\":[\x7b\"type\":\"pit\",\"position\":[400,300],\"size\":[-40,-40]\x7d]\x7d\x7d\x7d"

theorem inverted_loads :
    (match Catalog.load inverted with
      | .ok c => decide (c.arenas.find? "inverted" = some ⟨800, 600, 20, [sunken]⟩)
      | .error _ => false) = true := by
  decide +kernel

/-- It loads, and its pit leaves out a circle in its middle that the sensor notices. -/
theorem inverted_pit_differs :
    ∃ c a h s, Catalog.load inverted = .ok c ∧ c.arenas.find? "inverted" = some a ∧
      a.hazards[0]? = some h ∧ (World.ofArena a .usual).sensors[0]? = some s ∧
      (0 : Float32) ≤ 5 ∧ h.overlapsCircle ⟨400, 300⟩ 5 = false ∧
      s.overlaps ⟨400, 300⟩ 5 = true := by
  have loads := inverted_loads
  cases loaded : Catalog.load inverted with
  | error e =>
      rw [loaded] at loads
      cases loads
  | ok c =>
      rw [loaded] at loads
      refine ⟨c, _, sunken, .around sunken.position sunken.size, rfl, of_decide_eq_true loads,
        rfl, rfl, ?_, ?_, ?_⟩ <;> decide +kernel

end Hazard

end RobotCombat
