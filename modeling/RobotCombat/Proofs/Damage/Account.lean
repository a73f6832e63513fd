/-
# RobotCombat.Proofs.Damage.Account — the damage log accounts for every hit point

`replay` deducts the events against an entrant from its maximum, in the order of
the log. A state is `Accounted` for by a log when the replay gives exactly its hit
points and every shorter replay leaves some: the last event may be deadly, none
before it was. Each change of a ruling keeps the account (`Change.accounted`): who is
hurt or falls is alive, loses what the new event records, and no other entrant has
its id.
-/
import RobotCombat.Proofs.Damage.Soundness

namespace RobotCombat

set_option autoImplicit false

open Number

namespace Entrant

/-- The hit points of an entrant after one more event against it. -/
def deduct (e : Entrant) (hp : Float32) (event : DamageEvent) : Float32 :=
  clamp (hp - event.damage) 0 e.stats.maxHp

/-- The events of a log that target an entrant. -/
def suffered (e : Entrant) (log : List DamageEvent) : List DamageEvent :=
  log.filter fun event => event.target = e.id

/-- The hit points that events leave of the maximum. -/
def replay (e : Entrant) (events : List DamageEvent) : Float32 :=
  events.foldl e.deduct e.stats.maxHp

theorem replay_snoc (e : Entrant) (events : List DamageEvent) (event : DamageEvent) :
    e.replay (events ++ [event]) = e.deduct (e.replay events) event := by
  unfold replay
  rw [List.foldl_append]
  rfl

theorem suffered_snoc_other (e : Entrant) (log : List DamageEvent) {event : DamageEvent}
    (other : event.target ≠ e.id) : e.suffered (log ++ [event]) = e.suffered log := by
  unfold suffered
  rw [List.filter_append, List.filter_singleton, decide_eq_false other]
  exact List.append_nil _

theorem suffered_snoc_self (e : Entrant) (log : List DamageEvent) {event : DamageEvent}
    (self : event.target = e.id) : e.suffered (log ++ [event]) = e.suffered log ++ [event] := by
  unfold suffered
  rw [List.filter_append, List.filter_singleton, decide_eq_true self]
  rfl

end Entrant

/-- A log that explains the hit points of a state. -/
structure FighterState.Accounted (log : List DamageEvent) (e : Entrant) (s : FighterState) :
    Prop where
  sound : s.Sound e
  exact : e.replay (e.suffered log) = s.hp
  alive : ∀ k, k < (e.suffered log).length → 0 < e.replay ((e.suffered log).take k)

namespace FighterState

variable {log : List DamageEvent} {e : Entrant} {s s' : FighterState} {event : DamageEvent}

/-- A change that is no damage needs no event. -/
theorem Accounted.congr (account : s.Accounted log e) (sound : s'.Sound e) (hp : s'.hp = s.hp) :
    s'.Accounted log e :=
  ⟨sound, account.exact.trans hp.symm, account.alive⟩

/-- An event against another fighter changes nothing. -/
theorem Accounted.other (account : s.Accounted log e) (other : event.target ≠ e.id) :
    s.Accounted (log ++ [event]) e where
  sound := account.sound
  exact := by
    rw [e.suffered_snoc_other log other]
    exact account.exact
  alive := by
    rw [e.suffered_snoc_other log other]
    exact account.alive

/-- An event against a living fighter that loses what the event records. -/
theorem Accounted.against (account : s.Accounted log e) (alive : s.isAlive = true)
    (self : event.target = e.id) (sound : s'.Sound e) (lost : s'.hp = e.deduct s.hp event) :
    s'.Accounted (log ++ [event]) e where
  sound := sound
  exact := by
    rw [e.suffered_snoc_self log self, e.replay_snoc, account.exact, lost]
  alive := by
    rw [e.suffered_snoc_self log self, List.length_append]
    intro k inside
    have before : k ≤ (e.suffered log).length := Nat.lt_succ_iff.mp inside
    rw [List.take_append_of_le_length before]
    rcases Nat.lt_or_eq_of_le before with shorter | whole
    · exact account.alive k shorter
    -- the whole log so far leaves what the living fighter still has
    · rw [whole, List.take_length, account.exact]
      exact account.sound.alive.mp alive

/-- A fresh fighter needs no events. -/
theorem accounted_spawnState (sound : e.spawnState.Sound e) : e.spawnState.Accounted [] e where
  sound := sound
  exact := sound.maxHp.symm
  alive := by
    intro k inside
    cases inside

end FighterState

/-- A living fighter loses what a new event records, and every account is kept: no
other entrant has its id. -/
theorem Roster.Each.suffer {r : Roster} {log : List DamageEvent} {states : List FighterState}
    (account : r.Each (FighterState.Accounted log) states) (entered : r.Entered) {place : Nat}
    {e : Entrant} {s s' : FighterState} {event : DamageEvent} (present : r.get? place = some e)
    (lookup : states[place]? = some s) (alive : s.isAlive = true) (self : event.target = e.id)
    (sound : s'.Sound e) (lost : s'.hp = e.deduct s.hp event) :
    r.Each (FighterState.Accounted (log ++ [event])) (states.set place s') := by
  refine account.set ?_ ?_
  · intro e' present'
    obtain rfl : e = e' := Option.some.inj (present.symm.trans present')
    exact (account.holds present lookup).against alive self sound lost
  · intro other e' s' elsewhere present' kept
    refine kept.other fun same => ?_
    exact elsewhere (entered.place_of_id present' present (same.symm.trans self))

namespace Ruling

variable {scene : Scene} {r r' : Ruling}

/-- A change keeps the account of every fighter, whatever was logged before the
tick. -/
theorem Change.accounted (entered : scene.roster.Entered) (healthy : scene.roster.Healthy)
    (log : List DamageEvent) (change : Change scene r r')
    (account : scene.roster.Each (FighterState.Accounted (log ++ r.damage)) r.states) :
    scene.roster.Each (FighterState.Accounted (log ++ r'.damage)) r'.states := by
  cases change with
  | touch place =>
      exact account.modify place fun kept =>
        kept.congr (kept.sound.congr rfl rfl rfl rfl rfl) rfl
  | prick place =>
      exact account.modify place fun kept =>
        kept.congr (kept.sound.congr rfl rfl rfl rfl rfl) rfl
  | trigger place slot ms =>
      exact account.modify place fun kept => kept.congr (kept.sound.trigger slot ms) rfl
  | kick pushes => exact account
  | unscored lookup noRange => exact account
  | hurt attacker cause present lookup alive positive range =>
      have kept := account.holds present lookup
      have fit := healthy present
      have sound := kept.sound.struck fit alive (ne_nan_of_lt_right positive)
      have lost := FighterState.struck_hp kept.sound fit alive positive
      rw [FighterState.remaining, kept.sound.maxHp] at lost
      rw [← List.append_assoc]
      exact account.suffer entered present lookup alive rfl sound lost
  | fall lookup alive =>
      obtain ⟨e, present, kept⟩ := account.entrant lookup
      have fit := healthy present
      have all := FighterState.remaining_all kept.sound fit
      rw [FighterState.remaining, kept.sound.maxHp] at all
      rw [← List.append_assoc]
      exact account.suffer entered present lookup alive kept.sound.id (kept.sound.fallen fit)
        all.symm

/-- The ruling on a tick keeps the account of every fighter. -/
theorem ofContacts_accounted (entered : scene.roster.Entered) (healthy : scene.roster.Healthy)
    (log : List DamageEvent) (current : List FighterState) {next : List FighterState}
    (contacts : List Contact)
    (account : scene.roster.Each (FighterState.Accounted log) next) :
    scene.roster.Each
      (FighterState.Accounted (log ++ (ofContacts scene current next contacts).damage))
      (ofContacts scene current next contacts).states := by
  refine (ofContacts_reaches scene current next contacts).invariant
    (P := fun r => scene.roster.Each (FighterState.Accounted (log ++ r.damage)) r.states) ?_ ?_
  · intro a b change kept
    exact change.accounted entered healthy log kept
  · show scene.roster.Each (FighterState.Accounted (log ++ [])) next
    rw [List.append_nil]
    exact account

end Ruling

end RobotCombat
