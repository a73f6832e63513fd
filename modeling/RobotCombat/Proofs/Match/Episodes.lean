/-
# RobotCombat.Proofs.Match.Episodes — damage follows contact

A pair that touches in a tick does so in a longest run of ticks, an `Episode`
(`exists_episode`); with a contact that is new an episode begins (`episode_of_isNew`).
So what is done by new contacts only is done once in each episode, and what is done by
all contacts is done in each of its ticks (`damage_follows_episodes`).
-/
import RobotCombat.Proofs.Match.Blows
import RobotCombat.Proofs.Match.Verdict

namespace RobotCombat

set_option autoImplicit false

namespace Battle

/-- Whether a pair touches in a tick of a match. -/
def Touching (m : Battle) (pair : Nat × Touched) (tick : Nat) : Prop :=
  (steps tick m).isFinished = false ∧
    ∃ c ∈ (steps (tick + 1) m).world.contacts, c.pair = pair

/-- A longest run of ticks of a match in each of which a pair touches. -/
structure Episode (m : Battle) (pair : Nat × Touched) (first last : Nat) : Prop where
  ordered : first ≤ last
  touching : ∀ n, first ≤ n → n ≤ last → m.Touching pair n
  begins : ∀ n, n + 1 = first → ¬ m.Touching pair n
  ends : ¬ m.Touching pair (last + 1)

section Episodes

variable {m : Battle} {pair : Nat × Touched} {n : Nat}

theorem touching_iff (going : (steps n m).isFinished = false) :
    m.Touching pair n ↔ ∃ c ∈ (steps n m).nextWorld.contacts, c.pair = pair := by
  unfold Touching
  rw [steps_succ_of_going going, tickOnce_world]
  exact and_iff_right going

/-- A touch goes back to one before which the pair was apart. -/
theorem exists_first (touching : m.Touching pair n) :
    ∃ first, first ≤ n ∧ (∀ k, first ≤ k → k ≤ n → m.Touching pair k) ∧
      ∀ k, k + 1 = first → ¬ m.Touching pair k := by
  induction n with
  | zero =>
      refine ⟨0, le_rfl, fun k _ upTo => ?_, fun k before => by omega⟩
      obtain rfl : k = 0 := by omega
      exact touching
  | succ n ih =>
      by_cases before : m.Touching pair n
      · obtain ⟨first, upTo, through, begins⟩ := ih before
        refine ⟨first, by omega, fun k since within => ?_, begins⟩
        rcases Nat.lt_or_eq_of_le within with below | rfl
        · exact through k since (by omega)
        · exact touching
      · refine ⟨n + 1, le_rfl, fun k since within => ?_, fun k last => ?_⟩
        · obtain rfl : k = n + 1 := by omega
          exact touching
        · obtain rfl : k = n := by omega
          exact before

/-- It goes on to one after which the pair is apart, at the latest when the match ends. -/
theorem exists_last (start : m.isFinished = false) (touching : m.Touching pair n) :
    ∃ last, n ≤ last ∧ (∀ k, n ≤ k → k ≤ last → m.Touching pair k) ∧
      ¬ m.Touching pair (last + 1) := by
  classical
  have apart : ∃ k, ¬ m.Touching pair (n + k) := by
    obtain ⟨stop, -, -, -, -, ended⟩ := run_eq_steps start
    refine ⟨stop, fun touching => ?_⟩
    have going : (steps stop m).isFinished = false := going_before (by omega) touching.1
    rw [going] at ended
    cases ended
  obtain ⟨k, next⟩ : ∃ k, Nat.find apart = k + 1 := by
    refine Nat.exists_eq_succ_of_ne_zero fun zero => ?_
    have now := Nat.find_spec apart
    rw [zero] at now
    exact now touching
  refine ⟨n + k, Nat.le_add_right n k, fun i since upTo => ?_, ?_⟩
  · obtain ⟨j, rfl⟩ := Nat.exists_eq_add_of_le since
    exact not_not.mp (Nat.find_min apart (by omega))
  · have first := Nat.find_spec apart
    rwa [next] at first

/-- A pair that touches in a tick is in an episode. -/
theorem exists_episode (start : m.isFinished = false) (touching : m.Touching pair n) :
    ∃ first last, first ≤ n ∧ n ≤ last ∧ m.Episode pair first last := by
  obtain ⟨first, since, back, begins⟩ := exists_first touching
  obtain ⟨last, upTo, forth, ends⟩ := exists_last start touching
  refine ⟨first, last, since, upTo, since.trans upTo, fun k since' upTo' => ?_, begins, ends⟩
  rcases Nat.le_total k n with below | above
  · exact back k since' below
  · exact forth k above upTo'

/-- With a new contact an episode begins. -/
theorem episode_of_isNew {r : Roster} {a : Arena} (placed : (steps n m).Placed r a)
    (start : m.isFinished = false) (going : (steps n m).isFinished = false) {c : Contact}
    (member : c ∈ (steps n m).nextWorld.contacts) (fresh : c.isNew = true) :
    ∃ last, m.Episode c.pair n last := by
  have touching : m.Touching c.pair n := (touching_iff going).mpr ⟨c, member, rfl⟩
  obtain ⟨last, upTo, forth, ends⟩ := exists_last start touching
  refine ⟨last, upTo, forth, ?_, ends⟩
  rintro k rfl ⟨-, before, listed, same⟩
  exact (placed.isNew_iff member).mp fresh before listed same

end Episodes

variable {r : Roster} {place : Nat} {e : Entrant}

/-- What an entrant takes in a tick follows its contacts. A strike hurts it only in the
first tick of an episode of the two fighters, and once. Walls hurt it at most once for
each side with which an episode begins at more than the threshold. Spinners hurt it only
in an episode, if the other one was alive when the tick began: then in each tick of the
episode it takes their damage, in slot order, until it is destroyed. Of the spikes that it
ends up on it takes the damage in every tick, in the order of the zones, until it is
destroyed or falls. The last two are about ticks that come to an end: there is none where
damage reaches a fighter whose hit points have no range. -/
theorem damage_follows_episodes (entered : r.Entered) (a : Arena) (c : MatchConfig) {n : Nat}
    (going : (steps n (start r a c)).isFinished = false) (lookup : r.get? place = some e) :
    let m := start r a c
    let b := steps (n + 1) m
    let taken := fun P : Cause → Bool => (e.suffered b.lastDamage).filter (P ·.cause)
    let struck := taken (·.stage = .strike)
    let walled := taken (· = .wall)
    let ground := taken (· = .weapon .spinner)
    let pricked := taken (· = .spikes)
    ∃ s body, (steps n m).states[place]? = some s ∧ b.world.bodies[place]? = some body ∧
      (struck.length ≤ 1 ∧ (struck ≠ [] → ∃ last, m.Episode (0, .body 1) n last)) ∧
      (∃ sides : List WallSide, sides.Nodup ∧ walled.length ≤ sides.length ∧
        ∀ side ∈ sides, (∃ last, m.Episode (place, .wall side) n last) ∧
          ∃ c ∈ b.world.contacts, c.pair = (place, .wall side) ∧ wallThreshold < c.speed) ∧
      (ground ≠ [] → (steps n m).Alive (1 - place) ∧
        ∃ first last, first ≤ n ∧ n ≤ last ∧ m.Episode (0, .body 1) first last) ∧
      (b.unscorable = false → ∀ o, r.get? (1 - place) = some o →
        (steps n m).Alive (1 - place) → ∀ first last, m.Episode (0, .body 1) first last →
        first ≤ n → n ≤ last →
          ground = (s.after struck).bears (o.grindsDue e b.elapsedMs)) ∧
      (b.unscorable = false →
        pricked = (s.after (taken (·.stage ≠ .zone))).bears
          (((a.zonesIn body).takeWhile (·.kind = .spike)).filterMap
            (Hazard.spikeDue e b.elapsedMs))) := by
  intro m b taken struck walled ground pricked
  have start : m.isFinished = false := rfl
  have placed := steps_placed entered a c n
  have next : b = (steps n m).tickOnce := by
    show steps (n + 1) m = _
    rw [steps_succ, step_of_not_isFinished going]
  have world : b.world = (steps n m).nextWorld := by rw [next, tickOnce_world]
  have dealt : b.lastDamage = (steps n m).ruling.damage := by rw [next, tickOnce_lastDamage]
  have time : b.elapsedMs = (steps n m).scene.timestamp := by
    rw [next, elapsedMs, tickOnce_config, tickOnce_tick]
    rfl
  have clashes : ∀ meeting, (steps n m).clash? = some meeting ↔
      meeting ∈ (steps n m).nextWorld.contacts ∧ meeting.pair = (0, .body 1) :=
    fun _ => placed.mem_clash? entered
  have touching : m.Touching (0, .body 1) n ↔ (steps n m).clash? ≠ none := by
    rw [touching_iff going, Option.ne_none_iff_exists']
    exact exists_congr fun meeting => (clashes meeting).symm
  obtain ⟨s, body, state, here⟩ := placed.stands entered lookup
  refine ⟨s, body, state, world ▸ here, ?_, ?_, ?_, ?_, ?_⟩ <;>
    simp only [struck, walled, ground, pricked, taken, dealt, time]
  · obtain ⟨once, clash⟩ := placed.strikes_le_one entered lookup
    refine ⟨once, fun some => ?_⟩
    obtain ⟨meeting, met, fresh⟩ := clash some
    obtain ⟨member, pair⟩ := (clashes meeting).mp met
    exact pair ▸ episode_of_isNew placed start going member fresh
  · obtain ⟨sides, distinct, few, met⟩ := placed.walls_le entered lookup
    refine ⟨sides, distinct, few, fun side member => ?_⟩
    obtain ⟨meeting, listed, pair, fresh, fast⟩ := met side member
    have begins := episode_of_isNew placed start going listed fresh
    exact ⟨pair ▸ begins, meeting, world ▸ listed, pair, fast⟩
  · intro some
    obtain ⟨clash, alive⟩ := placed.grinds_ne_nil entered lookup some
    exact ⟨alive, exists_episode start (touching.mpr clash)⟩
  · intro scored o opponent alive first last episode since upTo
    have clash := touching.mp (episode.touching n since upTo)
    exact placed.grinds entered lookup state (next ▸ scored) opponent alive clash
  · intro scored
    exact placed.spikes entered lookup state here (next ▸ scored)

/-- A light fighter with two spinners. -/
def whirler : Build :=
  { Build.bare "whirler" "scout" .usual with weaponIds := ["miniSpinner", "miniSpinner"] }

/-- It is at arm's length from the heavy one. -/
def whirl : Roster := ⟨[.of whirler ⟨390, 300⟩ .stock, .of Roster.smith ⟨410, 300⟩ .stock]⟩

theorem whirl_entered : whirl.Entered :=
  have first := @Roster.Entered.add .empty _ whirler ⟨390, 300⟩ .stock .empty rfl
  @Roster.Entered.add _ whirl Roster.smith ⟨410, 300⟩ .stock first rfl

/-- A bed of spikes between the two. -/
def bed : Arena :=
  { Arena.plain with hazards := [⟨.spike, ⟨400, 300⟩, ⟨80, 80⟩, some 40⟩] }

/-- The heavy fighter is struck in the first tick, with which an episode begins, and in the
second tick both spinners and the spikes hurt it. -/
theorem whirl_grinds_on :
    whirl.Entered ∧ (steps 1 (start whirl bed .usual)).isFinished = false ∧
      ∃ e, whirl.get? 1 = some e ∧
        let m := start whirl bed .usual
        let b := steps (1 + 1) m
        let taken := fun P : Cause → Bool => (e.suffered b.lastDamage).filter (P ·.cause)
        (∃ last, m.Episode (0, .body 1) 0 last) ∧ (taken (·.stage = .strike)).length ≤ 1 ∧
          (taken (· = .weapon .spinner)).length = 2 ∧ (taken (· = .spikes)).length = 1 ∧
          ∃ s body o, (steps 1 m).states[1]? = some s ∧ b.world.bodies[1]? = some body ∧
            whirl.get? 0 = some o ∧
            taken (· = .weapon .spinner) =
              (s.after (taken (·.stage = .strike))).bears (o.grindsDue e b.elapsedMs) ∧
            taken (· = .spikes) =
              (s.after (taken (·.stage ≠ .zone))).bears
                (((bed.zonesIn body).takeWhile (·.kind = .spike)).filterMap
                  (Hazard.spikeDue e b.elapsedMs)) := by
  have first : whirl.get? 0 = some (.of whirler ⟨390, 300⟩ .stock) := rfl
  have second : whirl.get? 1 = some (.of Roster.smith ⟨410, 300⟩ .stock) := rfl
  let taken := fun (n : Nat) (P : Cause → Bool) =>
    ((Entrant.of Roster.smith ⟨410, 300⟩ .stock).suffered
      (steps n (start whirl bed .usual)).lastDamage).filter (P ·.cause)
  obtain ⟨going, struck⟩ : (steps 1 (start whirl bed .usual)).isFinished = false ∧
      taken (0 + 1) (·.stage = .strike) ≠ [] := by decide +kernel
  obtain ⟨scored, twice, pricked⟩ : (steps (1 + 1) (start whirl bed .usual)).unscorable = false ∧
      (taken (1 + 1) (· = .weapon .spinner)).length = 2 ∧
      (taken (1 + 1) (· = .spikes)).length = 1 := by decide +kernel
  have ground : taken (1 + 1) (· = .weapon .spinner) ≠ [] :=
    List.ne_nil_of_length_pos (twice ▸ Nat.two_pos)
  obtain ⟨-, -, -, -, ⟨-, begins⟩, -⟩ :=
    damage_follows_episodes whirl_entered bed .usual (n := 0) rfl second
  obtain ⟨s, body, state, here, ⟨once, -⟩, -, during, worn, spikes⟩ :=
    damage_follows_episodes whirl_entered bed .usual going second
  obtain ⟨alive, start, last, since, upTo, episode⟩ := during ground
  exact ⟨whirl_entered, going, _, second, begins struck, once, twice, pricked, s, body, _, state,
    here, first, worn scored _ first alive start last episode since upTo, spikes scored⟩

end Battle

end RobotCombat
