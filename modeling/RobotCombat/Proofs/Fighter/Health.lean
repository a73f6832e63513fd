/-
# RobotCombat.Proofs.Fighter.Health — the record of a fighter in a match

A state is `Sound` for an entrant when it carries the entrant's id, maximum and
slots, keeps its hit points between zero and the maximum, is destroyed exactly at
zero, and has no negative cooldown. A fresh fighter is sound, and each operation
of a tick keeps that, for entrants whose maximum is positive and finite.

* `damage?_of_alive`: damage that gets through always has an answer, `struck`;
* `struck_hp`: it leaves exactly the clamped difference, the deadly blow included;
* `Sound.struck`, `Sound.fallen`, `Sound.trigger`, `Sound.cool`: soundness is kept.
-/
import RobotCombat.Damage.Hazards
import RobotCombat.Proofs.Number.Difference

namespace RobotCombat

set_option autoImplicit false

open Number

/-- An entrant whose hit points have a positive and finite maximum. -/
structure Entrant.Healthy (e : Entrant) : Prop where
  positive : 0 < e.stats.maxHp
  finite : e.stats.maxHp.isFinite = true

namespace FighterState

/-- A state that keeps the rules of a match for its entrant. -/
structure Sound (e : Entrant) (s : FighterState) : Prop where
  id : s.id = e.id
  maxHp : s.maxHp = e.stats.maxHp
  nonneg : 0 ≤ s.hp
  bounded : s.hp ≤ s.maxHp
  alive : s.isAlive = true ↔ 0 < s.hp
  destroyed : s.status.destroyed = true → s.hp = 0
  slots : s.cooldowns.length = e.loadout.weapons.length
  cooldowns : ∀ ms ∈ s.cooldowns, 0 ≤ ms

/-- The hit points that damage leaves. -/
def remaining (s : FighterState) (amount : Float32) : Float32 :=
  clamp (s.hp - amount) 0 s.maxHp

/-- A fighter after damage that gets through. -/
def struck (s : FighterState) (amount : Float32) : FighterState :=
  if s.remaining amount ≤ 0 then s.destroy else { s with hp := s.remaining amount }

variable {e : Entrant} {s : FighterState} {amount : Float32}

/-- Damage that gets through to a living fighter with a range of hit points has an
answer. -/
theorem damage?_of_alive (alive : s.isAlive = true) (hurts : ¬ amount ≤ 0)
    (range : 0 ≤ s.maxHp) :
    s.damage? amount = some (s.struck amount, s.hp - (s.struck amount).hp) := by
  unfold damage? struck
  rw [if_neg (by simp [alive, hurts]), if_pos range]
  by_cases deadly : s.remaining amount ≤ 0
  · rw [if_pos deadly]
    simp only [remaining] at deadly
    simp only [if_pos deadly]
    rfl
  · rw [if_neg deadly]
    simp only [remaining] at deadly ⊢
    simp only [if_neg deadly]

/-! ## Soundness, operation by operation -/

/-- A change of position, marks or action is no concern of soundness. -/
theorem Sound.congr {s' : FighterState} (good : s.Sound e) (id : s'.id = s.id)
    (hp : s'.hp = s.hp) (maxHp : s'.maxHp = s.maxHp)
    (destroyed : s'.status.destroyed = s.status.destroyed)
    (cooldowns : s'.cooldowns = s.cooldowns) : s'.Sound e := by
  have alive : s'.isAlive = s.isAlive := by unfold isAlive; rw [destroyed]
  exact
    { id := id.trans good.id
      maxHp := maxHp.trans good.maxHp
      nonneg := hp ▸ good.nonneg
      bounded := hp ▸ maxHp ▸ good.bounded
      alive := by rw [alive, hp]; exact good.alive
      destroyed := by rw [destroyed, hp]; exact good.destroyed
      slots := cooldowns ▸ good.slots
      cooldowns := cooldowns ▸ good.cooldowns }

theorem Sound.positive_maximum (good : s.Sound e) (healthy : e.Healthy) : 0 < s.maxHp :=
  good.maxHp ▸ healthy.positive

/-- The hit points of a sound fighter are finite. -/
theorem Sound.finite (good : s.Sound e) (healthy : e.Healthy) : s.hp.isFinite = true := by
  have maximum : s.maxHp.isFinite = true := good.maxHp ▸ healthy.finite
  exact isFinite_of_le good.nonneg good.bounded maximum

/-- What damage leaves lies in the range of hit points. -/
theorem Sound.remaining_between (good : s.Sound e) (healthy : e.Healthy) (number : amount ≠ .nan) :
    0 ≤ s.remaining amount ∧ s.remaining amount ≤ s.maxHp := by
  have difference : s.hp - amount ≠ .nan := sub_ne_nan (good.finite healthy) number
  exact clamp_between difference (le_of_less (good.positive_maximum healthy))

theorem Sound.destroy (good : s.Sound e) (healthy : e.Healthy) : s.destroy.Sound e where
  id := good.id
  maxHp := good.maxHp
  nonneg := self_le zero_ne_nan
  bounded := le_of_less (good.positive_maximum healthy)
  alive := by
    constructor
    · intro alive
      cases alive
    · intro positive
      exact absurd (self_le zero_ne_nan) (not_le_of_less positive)
  destroyed := fun _ => rfl
  slots := good.slots
  cooldowns := good.cooldowns

theorem Sound.struck (good : s.Sound e) (healthy : e.Healthy) (alive : s.isAlive = true)
    (number : amount ≠ .nan) : (s.struck amount).Sound e := by
  obtain ⟨nonneg, bounded⟩ := good.remaining_between healthy number
  unfold FighterState.struck
  split
  · exact good.destroy healthy
  · rename_i left
    have positive : 0 < s.remaining amount :=
      less_of_not_le (ne_nan_of_le_right nonneg) zero_ne_nan left
    exact
      { good with
        nonneg := nonneg
        bounded := bounded
        alive := ⟨fun _ => positive, fun _ => alive⟩
        destroyed := by
          intro (destroyed : s.status.destroyed = true)
          unfold isAlive at alive
          rw [destroyed] at alive
          cases alive }

/-- Damage leaves exactly the clamped difference: where a deadly blow sets zero,
the difference is zero too, and a positive one. -/
theorem struck_hp (good : s.Sound e) (healthy : e.Healthy) (alive : s.isAlive = true)
    (hurts : 0 < amount) : (s.struck amount).hp = s.remaining amount := by
  unfold FighterState.struck
  split
  · rename_i deadly
    show 0 = clamp (s.hp - amount) 0 s.maxHp
    unfold remaining clamp at deadly
    unfold clamp
    split
    · rfl
    · rename_i notBelow
      rw [if_neg notBelow] at deadly
      split
      · rename_i above
        rw [if_pos above] at deadly
        exact absurd deadly (not_le_of_less (good.positive_maximum healthy))
      · rename_i within
        rw [if_neg within] at deadly
        exact (sub_eq_zero_of_positive (good.alive.mp alive) (good.finite healthy) hurts notBelow
          deadly).symm
  · rfl

/-- A fall costs exactly the hit points that were left. -/
theorem remaining_all (good : s.Sound e) (healthy : e.Healthy) : s.remaining s.hp = 0 := by
  unfold remaining clamp
  rw [sub_self_of_finite (good.finite healthy), if_neg (by decide)]
  rw [if_neg fun below => not_le_of_less below (le_of_less (good.positive_maximum healthy))]

theorem Sound.fallen (good : s.Sound e) (healthy : e.Healthy) : (Hazards.fallen s).Sound e :=
  (good.destroy healthy).congr rfl rfl rfl rfl rfl

theorem Sound.trigger (good : s.Sound e) (slot : Nat) (ms : Float32) :
    (s.trigger slot ms).Sound e where
  id := good.id
  maxHp := good.maxHp
  nonneg := good.nonneg
  bounded := good.bounded
  alive := good.alive
  destroyed := good.destroyed
  slots := by
    show (s.cooldowns.modify slot _).length = _
    rw [List.length_modify]
    exact good.slots
  cooldowns := by
    intro cooldown member
    obtain ⟨place, lookup⟩ := List.mem_iff_getElem?.mp member
    simp only [FighterState.trigger, List.getElem?_modify] at lookup
    cases before : s.cooldowns[place]? with
    | none => simp [before] at lookup
    | some old =>
        by_cases here : slot = place
        · simp only [before, here, if_true, Option.map_eq_map, Option.map_some,
            Option.some.injEq] at lookup
          exact lookup ▸ zero_le_larger ms
        · simp only [before, here, if_false, Option.map_eq_map, Option.map_some,
            Option.some.injEq] at lookup
          exact lookup ▸ good.cooldowns old (List.mem_of_getElem? before)

theorem Sound.cool (good : s.Sound e) (ms : Float32) : (s.cool ms).Sound e where
  id := good.id
  maxHp := good.maxHp
  nonneg := good.nonneg
  bounded := good.bounded
  alive := good.alive
  destroyed := good.destroyed
  slots := by
    show (s.cooldowns.map _).length = _
    rw [List.length_map]
    exact good.slots
  cooldowns := by
    intro cooldown member
    obtain ⟨old, -, cooled⟩ := List.mem_map.mp member
    exact cooled ▸ zero_le_larger _

/-- A fighter enters the match sound. -/
theorem sound_spawnState (healthy : e.Healthy) (formed : e.stats = e.loadout.stats) :
    e.spawnState.Sound e := by
  have maximum : e.loadout.stats.maxHp = e.stats.maxHp := by rw [formed]
  have positive : 0 < e.loadout.stats.maxHp := maximum ▸ healthy.positive
  exact
    { id := rfl
      maxHp := maximum
      nonneg := le_of_less positive
      bounded := self_le (ne_nan_of_lt_right positive)
      alive := ⟨fun _ => positive, fun _ => rfl⟩
      destroyed := by intro destroyed; cases destroyed
      slots := List.length_map _
      cooldowns := by
        intro ms member
        obtain ⟨_, -, ready⟩ := List.mem_map.mp member
        exact ready ▸ self_le zero_ne_nan }

end FighterState

end RobotCombat
