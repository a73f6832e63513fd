/-
# RobotCombat.Proofs.Damage.Endurance — damage is taken until nothing is left

A fighter takes the damage that is due one after the other until it is destroyed:
`FighterState.bears`. How long that is depends on its hit points, their maximum and
whether it is alive, its `vitals`, and on nothing else about it. As long as nobody falls,
deeds record exactly what the fighter bears of the damage that is due by them
(`endure_damage`); after a fall nothing more is recorded (`cause_endure_drop`).

* `due_ground`, `spikes_endure`: what spinners and spike zones are due to do, and what is
  borne of it.
-/
import RobotCombat.Proofs.Damage.Fate

namespace RobotCombat

set_option autoImplicit false

namespace FighterState

/-- What damage looks at and changes. -/
def vitals (s : FighterState) : Float32 × Float32 × Bool := (s.hp, s.maxHp, s.isAlive)

/-- The events of a list that a fighter lives to take. -/
def bears (s : FighterState) : List DamageEvent → List DamageEvent
  | [] => []
  | event :: events => if s.isAlive then event :: (s.struck event.damage).bears events else []

/-- A fighter that has taken events. -/
def after (s : FighterState) (events : List DamageEvent) : FighterState :=
  events.foldl (fun s event => s.struck event.damage) s

variable {s s' : FighterState}

theorem isAlive_of_vitals (same : s.vitals = s'.vitals) : s.isAlive = s'.isAlive :=
  congrArg (fun v : Float32 × Float32 × Bool => v.2.2) same

theorem vitals_struck (same : s.vitals = s'.vitals) (amount : Float32) :
    (s.struck amount).vitals = (s'.struck amount).vitals := by
  obtain ⟨hp, maxHp, alive⟩ : s.hp = s'.hp ∧ s.maxHp = s'.maxHp ∧ s.isAlive = s'.isAlive := by
    simpa [vitals] using same
  have left : s.remaining amount = s'.remaining amount := by
    unfold remaining
    rw [hp, maxHp]
  unfold struck
  rw [left]
  split
  · simp [vitals, destroy, isAlive, maxHp]
  · simpa [vitals, isAlive, maxHp] using alive

theorem bears_congr (same : s.vitals = s'.vitals) (events : List DamageEvent) :
    s.bears events = s'.bears events := by
  induction events generalizing s s' with
  | nil => rfl
  | cons event events ih =>
      rw [bears, bears, isAlive_of_vitals same, ih (vitals_struck same event.damage)]

theorem vitals_after (same : s.vitals = s'.vitals) (events : List DamageEvent) :
    (s.after events).vitals = (s'.after events).vitals := by
  induction events generalizing s s' with
  | nil => exact same
  | cons event events ih => exact ih (vitals_struck same event.damage)

theorem after_append (s : FighterState) (events later : List DamageEvent) :
    s.after (events ++ later) = (s.after events).after later :=
  List.foldl_append

theorem bears_of_destroyed (destroyed : s.isAlive = false) (events : List DamageEvent) :
    s.bears events = [] := by
  cases events with
  | nil => rfl
  | cons event events => simp [bears, destroyed]

/-- What a fighter takes of two lists: of the second one, what it takes after the first. -/
theorem bears_append (s : FighterState) (events later : List DamageEvent) :
    s.bears (events ++ later) = s.bears events ++ (s.after (s.bears events)).bears later := by
  induction events generalizing s with
  | nil => rfl
  | cons event events ih =>
      by_cases alive : s.isAlive = true
      · simp only [List.cons_append, bears, if_pos alive, ih]
        rfl
      · have destroyed : s.isAlive = false := by simpa using alive
        simp only [bears_of_destroyed destroyed, List.nil_append]
        exact (bears_of_destroyed destroyed later).symm

end FighterState

/-- The event that a deed is due to leave behind: harm that gets through armor. -/
def Deed.due (timestamp : Float32) (e : Entrant) : Deed → Option DamageEvent
  | .harm attacker raw cause =>
    let applied := armorReduced raw e.stats.damageReduction
    if 0 < applied then some ⟨attacker, e.id, applied, cause, timestamp⟩ else none
  | _ => none

section Endurance

variable {timestamp : Float32} {e : Entrant} {s : FighterState}

/-- A deed that is no fall records what the fighter bears of what is due. -/
theorem effect_damage {d : Deed} (stays : d ≠ .drop)
    (scored : (d.effect timestamp e s).unscorable = false) :
    (d.effect timestamp e s).damage = s.bears (d.due timestamp e).toList ∧
      (d.effect timestamp e s).state.vitals =
        (s.after (d.effect timestamp e s).damage).vitals := by
  cases d with
  | drop => exact absurd rfl stays
  | harm attacker raw cause =>
      simp only [Deed.effect, Deed.due] at scored ⊢
      by_cases through : 0 < armorReduced raw e.stats.damageReduction
      · by_cases alive : s.isAlive = true
        · rw [if_pos ⟨alive, through⟩] at scored ⊢
          rw [if_pos through]
          split at scored
          · rename_i range
            rw [if_pos range]
            simp [FighterState.bears, FighterState.after, Fate.quiet, alive]
          · cases scored
        · have destroyed : s.isAlive = false := by simpa using alive
          rw [if_neg fun both => alive both.1, FighterState.bears_of_destroyed destroyed]
          exact ⟨rfl, rfl⟩
      · rw [if_neg fun both => through both.2, if_neg through]
        exact ⟨rfl, rfl⟩
  | _ => exact ⟨rfl, rfl⟩

/-- Deeds among which is no fall record what the fighter bears of what is due. -/
theorem endure_damage {ds : List Deed} (stays : ∀ d ∈ ds, d ≠ .drop)
    (scored : (endure timestamp e s ds).unscorable = false) :
    (endure timestamp e s ds).damage = s.bears (ds.filterMap (Deed.due timestamp e)) ∧
      (endure timestamp e s ds).state.vitals =
        (s.after (endure timestamp e s ds).damage).vitals := by
  induction ds generalizing s with
  | nil => exact ⟨rfl, rfl⟩
  | cons d ds ih =>
      obtain ⟨scored, scored'⟩ := Bool.or_eq_false_iff.mp scored
      obtain ⟨first, state⟩ := effect_damage (stays d List.mem_cons_self) scored
      have stays' : ∀ d' ∈ ds, d' ≠ .drop := fun d' member =>
        stays d' (List.mem_cons_of_mem d member)
      obtain ⟨later, state'⟩ := ih stays' scored'
      have damage : (endure timestamp e s (d :: ds)).damage =
          (d.effect timestamp e s).damage ++
            (endure timestamp e (d.effect timestamp e s).state ds).damage := rfl
      constructor
      · rw [damage, filterMap_cons_eq_append, FighterState.bears_append, ← first, later,
          FighterState.bears_congr state]
      · rw [damage, FighterState.after_append]
        exact state'.trans (FighterState.vitals_after state _)

/-- Nothing is recorded against a destroyed fighter. -/
theorem damage_endure_of_destroyed (destroyed : s.isAlive = false) (ds : List Deed) :
    (endure timestamp e s ds).damage = [] := by
  induction ds generalizing s with
  | nil => rfl
  | cons d ds ih =>
      have spared : (d.effect timestamp e s).damage = [] ∧
          (d.effect timestamp e s).state.isAlive = false := by
        cases d <;> simp [Deed.effect, Fate.quiet, destroyed] <;> exact destroyed
      show _ ++ _ = []
      rw [spared.1, ih spared.2]
      rfl

/-- After a fall nothing is recorded but the fall. -/
theorem cause_endure_drop {ds : List Deed} {event : DamageEvent}
    (member : event ∈ (endure timestamp e s (.drop :: ds)).damage) : event.cause = .pit := by
  have destroyed : (Deed.effect timestamp e s .drop).state.isAlive = false := by
    simp only [Deed.effect]
    split
    · rfl
    · simpa [Fate.quiet] using ‹¬ s.isAlive = true›
  rcases List.mem_append.mp member with first | later
  · simp only [Deed.effect] at first
    split at first
    · obtain rfl := List.mem_singleton.mp first
      rfl
    · cases first
  · rw [damage_endure_of_destroyed destroyed] at later
    cases later

end Endurance

/-! ## Spinners and spikes -/

/-- The events that the spinners of one entrant are due to leave on another in a tick, in
slot order: those that get through armor. -/
def Entrant.grindsDue (e target : Entrant) (timestamp : Float32) : List DamageEvent :=
  e.loadout.weapons.filterMap fun m =>
    let applied := armorReduced (m.weapon.baseDamage * 0.1) target.stats.damageReduction
    if m.weapon.kind = .spinner ∧ 0 < applied then
      some ⟨some e.id, target.id, applied, .weapon .spinner, timestamp⟩
    else none

theorem due_ground (e target : Entrant) (timestamp : Float32) :
    (Combat.ground e).filterMap (Deed.due timestamp target) = e.grindsDue target timestamp := by
  unfold Combat.ground Entrant.grindsDue
  induction e.loadout.weapons with
  | nil => rfl
  | cons m weapons ih =>
      rw [List.filterMap_cons, ← ih]
      by_cases spinner : m.weapon.kind = .spinner
      · have continuous : m.weapon.kind.isContinuous = true := by rw [spinner]; rfl
        rw [List.filter_cons_of_pos (by simpa using continuous), List.map_cons,
          List.filterMap_cons]
        simp [Deed.due, spinner]
      · have discrete : m.weapon.kind.isContinuous = false := by
          cases kind : m.weapon.kind <;> first | rfl | exact absurd kind spinner
        rw [List.filter_cons_of_neg (by simp [discrete])]
        simp [spinner]

/-- The event that a spike zone is due to leave on an entrant in a tick. -/
def Hazard.spikeDue (target : Entrant) (timestamp : Float32) (h : Hazard) :
    Option DamageEvent :=
  let applied := armorReduced (Hazards.spikeDamage h.damage) target.stats.damageReduction
  if 0 < applied then some ⟨none, target.id, applied, .spikes, timestamp⟩ else none

section Spikes

variable {timestamp : Float32} {e : Entrant} {s : FighterState} {h : Hazard}

theorem due_spike (spike : h.kind = .spike) :
    (Hazards.zoneDeeds h).filterMap (Deed.due timestamp e) = (h.spikeDue e timestamp).toList := by
  rw [Hazards.zoneDeeds, spike]
  by_cases through : 0 < armorReduced (Hazards.spikeDamage h.damage) e.stats.damageReduction <;>
    simp [List.filterMap_cons, Deed.due, Hazard.spikeDue, through]

/-- All that a spike zone records is spikes. -/
theorem cause_endure_spike (spike : h.kind = .spike) {event : DamageEvent}
    (member : event ∈ (endure timestamp e s (Hazards.zoneDeeds h)).damage) :
    event.cause = .spikes := by
  rw [Hazards.zoneDeeds, spike] at member
  rcases mem_endure member with ⟨raw, harm⟩ | ⟨-, -, dropped⟩
  · rcases List.mem_cons.mp harm with same | same
    · cases same
    · exact (Deed.harm.inj (List.mem_singleton.mp same)).2.2
  · simp at dropped

/-- Zones record what a fighter bears of their spikes up to the first pit. -/
theorem spikes_endure {zones : List Hazard}
    (scored : (endure timestamp e s (zones.flatMap Hazards.zoneDeeds)).unscorable = false) :
    (endure timestamp e s (zones.flatMap Hazards.zoneDeeds)).damage.filter (·.cause = .spikes) =
      s.bears ((zones.takeWhile (·.kind = .spike)).filterMap (Hazard.spikeDue e timestamp)) := by
  induction zones generalizing s with
  | nil => rfl
  | cons h zones ih =>
      rw [List.flatMap_cons] at scored ⊢
      cases kind : h.kind with
      | spike =>
          rw [unscorable_endure_append, Bool.or_eq_false_iff] at scored
          have stays : ∀ d ∈ Hazards.zoneDeeds h, d ≠ .drop := by
            rw [Hazards.zoneDeeds, kind]
            simp
          obtain ⟨damage, vitals⟩ := endure_damage stays scored.1
          have own : (endure timestamp e s (Hazards.zoneDeeds h)).damage.filter
                (·.cause = .spikes) = (endure timestamp e s (Hazards.zoneDeeds h)).damage :=
            List.filter_eq_self.mpr fun event member => by simp [cause_endure_spike kind member]
          rw [damage_endure_append, List.filter_append, own, ih scored.2,
            List.takeWhile_cons_of_pos (by simp [kind]), filterMap_cons_eq_append,
            FighterState.bears_append, ← due_spike kind, ← damage, FighterState.bears_congr vitals]
      | pit =>
          have deeds : Hazards.zoneDeeds h = [.drop] := by rw [Hazards.zoneDeeds, kind]
          rw [List.takeWhile_cons_of_neg (by simp [kind]), deeds]
          refine List.filter_eq_nil_iff.mpr fun event member => ?_
          rw [cause_endure_drop member]
          decide

end Spikes

end RobotCombat
