/-
# RobotCombat.Proofs.Match.Cooldowns — no weapon is ready early

A slot is triggered by a tick in which a contact of two living fighters begins, and only
if its cooldown has run down (`Placed.triggers_iff`). The tick writes the cooldown of the
weapon and counts it down once, together with all others; every later tick counts it down
once more (`Placed.cooldown_tickOnce`). So the cooldown after a number of ticks is that
many countdowns from what was written, and a slot fires again only when they came to zero
(`no_weapon_fires_early`).
-/
import RobotCombat.Proofs.Match.Fates

namespace RobotCombat

set_option autoImplicit false

open Number

theorem FighterState.isReady_iff {s : FighterState} {slot : Nat} :
    s.isReady slot = true ↔ ∃ cooldown, s.cooldowns[slot]? = some cooldown ∧ cooldown ≤ 0 := by
  unfold isReady
  cases s.cooldowns[slot]? <;> simp

/-- What is left of a cooldown after ticks of a length. -/
def countdown (tickMs : Float32) (ticks : Nat) (cooldown : Float32) : Float32 :=
  (fun cooldown => larger (cooldown - tickMs) 0)^[ticks] cooldown

theorem countdown_succ (tickMs : Float32) (ticks : Nat) (cooldown : Float32) :
    countdown tickMs (ticks + 1) cooldown = larger (countdown tickMs ticks cooldown - tickMs) 0 :=
  Function.iterate_succ_apply' _ ticks cooldown

/-- A countdown that is not above zero has come to zero. -/
theorem countdown_eq_zero {tickMs cooldown : Float32} {ticks : Nat}
    (done : countdown tickMs (ticks + 1) cooldown ≤ 0) :
    countdown tickMs (ticks + 1) cooldown = 0 := by
  rw [countdown_succ] at done ⊢
  apply larger_eq_zero
  intro positive
  have kept : larger (countdown tickMs ticks cooldown - tickMs) 0 =
      countdown tickMs ticks cooldown - tickMs := by
    unfold larger
    rw [if_neg (by decide), if_pos positive]
  rw [kept] at done
  exact not_le_of_less positive done

namespace Battle

/-- The cooldown of a slot of the fighter at a place. -/
def cooldown? (b : Battle) (place slot : Nat) : Option Float32 :=
  b.states[place]?.bind (·.cooldowns[slot]?)

/-- Whether the next tick starts the cooldown of a slot. -/
def Triggers (b : Battle) (place slot : Nat) : Prop :=
  ∃ ms, (place, .trigger slot ms) ∈ b.deeds

variable {r : Roster} {a : Arena} {b : Battle} {place slot : Nat} {e : Entrant} {m : Mounted}

/-! ## One tick -/

/-- A slot is triggered exactly if its weapon cools down at all, it has, and a contact of
two living fighters begins; what is written is the cooldown of the weapon. -/
theorem Placed.mem_deeds_trigger_iff (placed : b.Placed r a) (lookup : r.get? place = some e)
    (mounted : e.loadout.weapons[slot]? = some m) {ms : Float32} :
    (place, .trigger slot ms) ∈ b.deeds ↔
      ms = m.weapon.cooldownMs ∧ (m.weapon.kind ≠ .wedge ∧ m.weapon.kind ≠ .spinner) ∧
        (∃ cooldown, b.cooldown? place slot = some cooldown ∧ cooldown ≤ 0) ∧
        ∃ c ∈ b.nextWorld.contacts, ∃ other, c.Joins place other ∧ c.isNew = true ∧
          b.Alive place ∧ b.Alive other := by
  obtain ⟨s, state, -⟩ := placed.state lookup
  have cooldown : b.cooldown? place slot = s.cooldowns[slot]? := by
    unfold cooldown?
    rw [state]
    rfl
  rw [deeds, Ruling.mem_deeds_trigger_iff, ← m.weapon.isTriggered_iff, cooldown,
    ← FighterState.isReady_iff]
  constructor
  · rintro ⟨c, listed, other, joins, fresh, e', me, living, opponent, started⟩
    obtain ⟨lookup', state', alive⟩ := placed.living?_eq_some_iff.mp living
    obtain rfl : e = e' := Option.some.inj (lookup.symm.trans lookup')
    obtain rfl : s = me := Option.some.inj (state.symm.trans state')
    obtain ⟨i, m', same, mounted', ready, triggered, rfl⟩ :=
      Combat.mem_triggered_iff.mp started
    obtain rfl : slot = i := by omega
    obtain rfl : m = m' := Option.some.inj (mounted.symm.trans mounted')
    exact ⟨rfl, triggered, ready, c, listed, other, joins, fresh, ⟨s, state, alive⟩,
      (placed.living_iff_alive other).mp opponent⟩
  · rintro ⟨rfl, triggered, ready, c, listed, other, joins, fresh, ⟨me, here, alive⟩, opponent⟩
    obtain rfl : s = me := Option.some.inj (state.symm.trans here)
    refine ⟨c, listed, other, joins, fresh, e, s,
      placed.living?_eq_some_iff.mpr ⟨lookup, state, alive⟩,
      (placed.living_iff_alive other).mpr opponent, ?_⟩
    exact Combat.mem_triggered_iff.mpr
      ⟨slot, m, (Nat.zero_add slot).symm, mounted, ready, triggered, rfl⟩

theorem Placed.triggers_iff (placed : b.Placed r a) (lookup : r.get? place = some e)
    (mounted : e.loadout.weapons[slot]? = some m) :
    b.Triggers place slot ↔
      (m.weapon.kind ≠ .wedge ∧ m.weapon.kind ≠ .spinner) ∧
        (∃ cooldown, b.cooldown? place slot = some cooldown ∧ cooldown ≤ 0) ∧
        ∃ c ∈ b.nextWorld.contacts, ∃ other, c.Joins place other ∧ c.isNew = true ∧
          b.Alive place ∧ b.Alive other := by
  unfold Triggers
  simp only [placed.mem_deeds_trigger_iff lookup mounted, exists_and_right, exists_eq,
    true_and]

/-- A tick counts every cooldown down once, of a slot that it triggers the one it wrote. -/
theorem Placed.cooldown_tickOnce (placed : b.Placed r a) (entered : r.Entered)
    (lookup : r.get? place = some e) (mounted : e.loadout.weapons[slot]? = some m) :
    (b.Triggers place slot →
      b.tickOnce.cooldown? place slot = (b.cooldown? place slot).map fun _ =>
        countdown b.config.tickMs 1 (larger m.weapon.cooldownMs 0)) ∧
    (¬ b.Triggers place slot →
      b.tickOnce.cooldown? place slot =
        (b.cooldown? place slot).map (countdown b.config.tickMs 1)) := by
  obtain ⟨s, state, -⟩ := placed.state lookup
  have alike : ∀ ms', Deed.trigger slot ms' ∈ entriesAt place b.deeds →
      ms' = m.weapon.cooldownMs := by
    intro ms' member
    exact ((placed.mem_deeds_trigger_iff lookup mounted).mp (mem_entriesAt.mp member)).1
  have endured : (endure b.scene.timestamp e (carried b.nextWorld b.intents s place)
      (entriesAt place b.deeds)).state.cooldowns[slot]? = _ := cooldown_endure _ alike
  have kept := (carried_keeps b.nextWorld b.intents s place).2.2.2.2
  have started : Deed.trigger slot m.weapon.cooldownMs ∈ entriesAt place b.deeds ↔
      b.Triggers place slot := by
    rw [mem_entriesAt]
    constructor
    · exact fun member => ⟨_, member⟩
    · rintro ⟨ms, member⟩
      obtain ⟨rfl, -⟩ := (placed.mem_deeds_trigger_iff lookup mounted).mp member
      exact member
  unfold cooldown?
  rw [placed.tickOnce_state entered lookup state, state]
  simp only [Option.bind_some, FighterState.cool, List.getElem?_map, endured, kept,
    Option.map_map]
  constructor
  · intro triggers
    simp only [if_pos (started.mpr triggers)]
    rfl
  · intro idle
    simp only [if_neg (idle ∘ started.mp)]
    rfl

/-! ## Runs of ticks -/

section Run

variable (entered : r.Entered) (a : Arena) (c : MatchConfig) (lookup : r.get? place = some e)
  (mounted : e.loadout.weapons[slot]? = some m)

include entered lookup mounted

/-- A tick of a run on a cooldown. -/
theorem cooldown_succ {t : Nat} (going : (steps t (start r a c)).isFinished = false) :
    ((steps t (start r a c)).Triggers place slot →
      (steps (t + 1) (start r a c)).cooldown? place slot =
        ((steps t (start r a c)).cooldown? place slot).map fun _ =>
          countdown c.tickMs 1 (larger m.weapon.cooldownMs 0)) ∧
    (¬ (steps t (start r a c)).Triggers place slot →
      (steps (t + 1) (start r a c)).cooldown? place slot =
        ((steps t (start r a c)).cooldown? place slot).map (countdown c.tickMs 1)) := by
  have tick := (steps_placed entered a c t).cooldown_tickOnce entered lookup mounted
  have config : (steps t (start r a c)).config = c := steps_config _ t
  rw [config] at tick
  rw [steps_succ_of_going going]
  exact tick

/-- After a trigger the cooldown is counted down tick by tick until the next one. -/
theorem cooldown_after_trigger {s k : Nat}
    (going : (steps (s + k) (start r a c)).isFinished = false)
    (triggers : (steps s (start r a c)).Triggers place slot)
    (between : ∀ u, s < u → u ≤ s + k → ¬ (steps u (start r a c)).Triggers place slot) :
    (steps (s + k + 1) (start r a c)).cooldown? place slot =
      some (countdown c.tickMs (k + 1) (larger m.weapon.cooldownMs 0)) := by
  induction k with
  | zero =>
      obtain ⟨-, ⟨cooldown, known, -⟩, -⟩ :=
        ((steps_placed entered a c s).triggers_iff lookup mounted).mp triggers
      rw [Nat.add_zero] at going ⊢
      rw [(cooldown_succ entered a c lookup mounted going).1 triggers, known]
      rfl
  | succ k ih =>
      have before := ih (going_before (by omega) going) fun u above upTo =>
        between u above (by omega)
      have idle := between (s + k + 1) (by omega) (by omega)
      rw [← Nat.add_assoc] at going ⊢
      rw [(cooldown_succ entered a c lookup mounted going).2 idle, before,
        countdown_succ c.tickMs (k + 1)]
      rfl

/-- A slot that has never been triggered is ready, as long as time passes. -/
theorem cooldown_before_trigger (ticking : 0 < c.tickMs) {t : Nat}
    (never : ∀ u, u < t → ¬ (steps u (start r a c)).Triggers place slot) :
    (steps t (start r a c)).cooldown? place slot = some 0 := by
  induction t with
  | zero =>
      have fresh : (start r a c).states[place]? = some e.spawnState := by
        have state : (start r a c).states[place]? = r.entrants[place]?.map Entrant.spawnState :=
          List.getElem?_map
        have present : r.entrants[place]? = some e := lookup
        rw [state, present]
        rfl
      have ready : e.spawnState.cooldowns[slot]? = some 0 := by
        show (e.loadout.weapons.map fun _ => (0 : Float32))[slot]? = some 0
        rw [List.getElem?_map, mounted]
        rfl
      show (start r a c).states[place]?.bind _ = _
      rw [fresh]
      exact ready
  | succ t ih =>
      have before := ih fun u below => never u (by omega)
      cases going : (steps t (start r a c)).isFinished with
      | true => rw [steps_succ, step_of_isFinished going, before]
      | false =>
          rw [(cooldown_succ entered a c lookup mounted going).2 (never t (by omega)), before]
          exact congrArg some (larger_eq_zero (zero_sub_not_positive ticking))

end Run

/-- A slot is triggered exactly by a tick in which a contact of its fighter begins, both
fighters being alive and its cooldown having run down, and never if its weapon is a wedge
or a spinner. After a trigger the cooldown is what the ticks since then leave of the
cooldown of the weapon, until the next trigger, which comes only when nothing is left.
Before the first trigger it is zero, and the slots of wedges and spinners stay so. -/
theorem no_weapon_fires_early (entered : r.Entered) (a : Arena) (c : MatchConfig)
    (ticking : 0 < c.tickMs) (lookup : r.get? place = some e)
    (mounted : e.loadout.weapons[slot]? = some m) :
    let b := fun t => steps t (start r a c)
    let full := larger m.weapon.cooldownMs 0
    (∀ t, (b t).Triggers place slot ↔
      (m.weapon.kind ≠ .wedge ∧ m.weapon.kind ≠ .spinner) ∧
        (∃ cooldown, (b t).cooldown? place slot = some cooldown ∧ cooldown ≤ 0) ∧
        ∃ meeting ∈ (b t).nextWorld.contacts, ∃ other, meeting.Joins place other ∧
          meeting.isNew = true ∧ (b t).Alive place ∧ (b t).Alive other) ∧
    (∀ s t, s ≤ t → (b t).isFinished = false → (b s).Triggers place slot →
      (∀ u, s < u → u ≤ t → ¬ (b u).Triggers place slot) →
        (b (t + 1)).cooldown? place slot = some (countdown c.tickMs (t - s + 1) full)) ∧
    (∀ s t, s < t → (b t).isFinished = false → (b s).Triggers place slot →
      (∀ u, s < u → u < t → ¬ (b u).Triggers place slot) → (b t).Triggers place slot →
        countdown c.tickMs (t - s) full = 0) ∧
    (∀ t, (∀ u, u < t → ¬ (b u).Triggers place slot) →
      (b t).cooldown? place slot = some 0) ∧
    (m.weapon.kind = .wedge ∨ m.weapon.kind = .spinner →
      ∀ t, (b t).cooldown? place slot = some 0) := by
  intro b full
  have triggers_iff := fun t => (steps_placed entered a c t).triggers_iff lookup mounted
  have untouched := fun t => cooldown_before_trigger entered a c lookup mounted ticking (t := t)
  refine ⟨triggers_iff, ?_, ?_, untouched, ?_⟩
  · intro s t ordered going triggers between
    obtain ⟨k, rfl⟩ := Nat.exists_eq_add_of_le ordered
    rw [Nat.add_sub_cancel_left]
    exact cooldown_after_trigger entered a c lookup mounted going triggers between
  · intro s t ordered going triggers between again
    obtain ⟨k, rfl⟩ := Nat.exists_eq_add_of_lt ordered
    have going' : (steps (s + k) (start r a c)).isFinished = false :=
      going_before (Nat.le_succ _) going
    have known := cooldown_after_trigger entered a c lookup mounted going' triggers
      fun u above upTo => between u above (by omega)
    obtain ⟨-, ⟨cooldown, recorded, ready⟩, -⟩ := (triggers_iff (s + k + 1)).mp again
    have left : countdown c.tickMs (k + 1) full ≤ 0 := by
      have same := Option.some.inj (known.symm.trans recorded)
      exact same ▸ ready
    have ticks : s + k + 1 - s = k + 1 := by omega
    rw [ticks]
    exact countdown_eq_zero left
  · intro idle t
    refine untouched t fun u _ triggers => ?_
    obtain ⟨⟨wedge, spinner⟩, -⟩ := (triggers_iff u).mp triggers
    exact idle.elim wedge spinner

/-- At arm's length the hammer of the heavy fighter strikes in the first tick, and after
it one tick of its cooldown has passed. -/
theorem clinch_hammer_cools_down :
    Roster.clinch.Entered ∧ 0 < MatchConfig.usual.tickMs ∧
      ∃ e m, Roster.clinch.get? 1 = some e ∧ e.loadout.weapons[0]? = some m ∧
        m.weapon.kind = .hammer ∧ (start .clinch .plain .usual).Triggers 1 0 ∧
        (steps 1 (start .clinch .plain .usual)).cooldown? 1 0 =
          some (countdown MatchConfig.usual.tickMs 1 (larger m.weapon.cooldownMs 0)) := by
  have ticking : 0 < MatchConfig.usual.tickMs := by decide
  have second : Roster.clinch.get? 1 = some (.of Roster.smith ⟨410, 300⟩ .stock) := rfl
  obtain ⟨m, mounted, hammer⟩ : ∃ m : Mounted,
      (Entrant.of Roster.smith ⟨410, 300⟩ .stock).loadout.weapons[0]? = some m ∧
        m.weapon.kind = .hammer := ⟨_, rfl, rfl⟩
  obtain ⟨triggers_iff, after, -, -⟩ :=
    no_weapon_fires_early Roster.clinch_entered .plain .usual ticking second mounted
  have met : (start .clinch .plain .usual).nextWorld.contacts.any
      (fun c => c.isNew && c.body = 0 && c.other = .body 1) = true := by decide +kernel
  obtain ⟨c, listed, met⟩ := List.any_eq_true.mp met
  simp only [Bool.and_eq_true, decide_eq_true_eq] at met
  obtain ⟨⟨fresh, first⟩, other⟩ := met
  have started : (start .clinch .plain .usual).Triggers 1 0 := by
    refine (triggers_iff 0).mpr ⟨by simp [hammer], ⟨0, rfl, by decide⟩, c, listed, 0,
      .inr ⟨first, other⟩, fresh, ⟨_, rfl, rfl⟩, ⟨_, rfl, rfl⟩⟩
  refine ⟨Roster.clinch_entered, ticking, _, m, second, mounted, hammer, started, ?_⟩
  exact after 0 0 (Nat.le_refl 0) rfl started fun u above upTo => by omega

end Battle

end RobotCombat
