/-
# RobotCombat.Proofs.Damage.Fate — what one fighter goes through in a ruling

Deeds at other places are no concern of a fighter. Where no id stands twice in the
roster, what a ruling holds in the end for the fighter at a place (its state, the damage
against its id, the pushes on it) is what the deeds at that place make of it, in their
order: `ofContacts_holds`.

Ids matter for falls alone, whose event is told by the state.

* `sources_endure`: nothing is recorded but what a deed brings, and each deed once;
* `cooldown_endure`: a cooldown is the one that was started, or as it was;
* `endure_swap`: cooldowns may start before or after everything else;
* `unscorable_performAll`: damage without an answer is damage to one of the fighters.
-/
import RobotCombat.Proofs.Damage.Account
import RobotCombat.Proofs.Damage.Deeds

namespace RobotCombat

set_option autoImplicit false

open Number

/-- What deeds in order make of an entrant in a state. -/
def endure (timestamp : Float32) (e : Entrant) : FighterState → List Deed → Fate
  | s, [] => .quiet s
  | s, d :: ds =>
    (d.effect timestamp e s).followedBy (endure timestamp e (d.effect timestamp e s).state ds)

section Endure

variable {timestamp : Float32} {e : Entrant} {s : FighterState}

@[simp] theorem Fate.quiet_followedBy (s : FighterState) (f : Fate) :
    (Fate.quiet s).followedBy f = f := by
  cases f
  rfl

@[simp] theorem Fate.followedBy_quiet (f : Fate) : f.followedBy (.quiet f.state) = f := by
  simp [Fate.quiet, Fate.followedBy]

theorem Fate.followedBy_assoc (f g h : Fate) :
    (f.followedBy g).followedBy h = f.followedBy (g.followedBy h) := by
  simp [Fate.followedBy, Bool.or_assoc]

theorem endure_append (ds ds' : List Deed) :
    endure timestamp e s (ds ++ ds') =
      (endure timestamp e s ds).followedBy
        (endure timestamp e (endure timestamp e s ds).state ds') := by
  induction ds generalizing s with
  | nil => exact (Fate.quiet_followedBy s _).symm
  | cons d ds ih =>
      simp only [List.cons_append, endure, ih, Fate.followedBy_assoc]
      rfl

theorem damage_endure_append (ds ds' : List Deed) :
    (endure timestamp e s (ds ++ ds')).damage =
      (endure timestamp e s ds).damage
        ++ (endure timestamp e (endure timestamp e s ds).state ds').damage := by
  rw [endure_append]
  rfl

theorem unscorable_endure_append (ds ds' : List Deed) :
    (endure timestamp e s (ds ++ ds')).unscorable =
      ((endure timestamp e s ds).unscorable
        || (endure timestamp e (endure timestamp e s ds).state ds').unscorable) := by
  rw [endure_append]
  rfl

@[simp] theorem id_struck (s : FighterState) (amount : Float32) : (s.struck amount).id = s.id := by
  unfold FighterState.struck
  split <;> rfl

theorem id_effect (d : Deed) : (d.effect timestamp e s).state.id = s.id := by
  cases d with
  | harm attacker raw cause =>
      simp only [Deed.effect]
      split
      · split <;> simp [Fate.quiet]
      · rfl
  | drop =>
      simp only [Deed.effect]
      split <;> rfl
  | _ => rfl

/-- Damage is recorded against the entrant, with the time. -/
theorem event_of_effect {d : Deed} (named : d = .drop → s.id = e.id) {event : DamageEvent}
    (member : event ∈ (d.effect timestamp e s).damage) :
    event.target = e.id ∧ event.timestamp = timestamp := by
  cases d with
  | harm attacker raw cause =>
      simp only [Deed.effect] at member
      split at member
      · split at member
        · obtain rfl := List.mem_singleton.mp member
          exact ⟨rfl, rfl⟩
        · cases member
      · cases member
  | drop =>
      simp only [Deed.effect] at member
      split at member
      · obtain rfl := List.mem_singleton.mp member
        exact ⟨named rfl, rfl⟩
      · cases member
  | _ => cases member

/-! ## What is recorded -/

/-- Who is said to have done harm, and with what. -/
def Deed.source : Deed → Option (Option String × Cause)
  | .harm attacker _ cause => some (attacker, cause)
  | .drop => some (none, .pit)
  | _ => none

/-- Who an event names, and what. -/
def DamageEvent.source (event : DamageEvent) : Option String × Cause :=
  (event.attacker, event.cause)

theorem sources_effect (d : Deed) :
    ((d.effect timestamp e s).damage.map DamageEvent.source).Sublist d.source.toList := by
  cases d with
  | harm attacker raw cause =>
      simp only [Deed.effect]
      split
      · split
        · exact .refl _
        · exact List.nil_sublist _
      · exact List.nil_sublist _
  | drop =>
      simp only [Deed.effect]
      split
      · exact .refl _
      · exact List.nil_sublist _
  | _ => exact List.nil_sublist _

/-- Nothing is recorded but what a deed brings, in the order of the deeds. -/
theorem sources_endure (ds : List Deed) :
    ((endure timestamp e s ds).damage.map DamageEvent.source).Sublist
      (ds.filterMap Deed.source) := by
  induction ds generalizing s with
  | nil => exact .refl _
  | cons d ds ih =>
      have first : ((d.effect timestamp e s).damage.map DamageEvent.source).Sublist
          d.source.toList := sources_effect d
      have both := first.append (ih (s := (d.effect timestamp e s).state))
      rw [← List.map_append] at both
      rw [filterMap_cons_eq_append]
      exact both

/-- An event goes back to harm, or to a fall. -/
theorem mem_endure {ds : List Deed} {event : DamageEvent}
    (member : event ∈ (endure timestamp e s ds).damage) :
    (∃ raw, .harm event.attacker raw event.cause ∈ ds) ∨
      event.attacker = none ∧ event.cause = .pit ∧ .drop ∈ ds := by
  have named := (sources_endure ds).subset (List.mem_map_of_mem (f := DamageEvent.source) member)
  obtain ⟨d, listed, source⟩ := List.mem_filterMap.mp named
  cases d with
  | harm attacker raw cause =>
      obtain ⟨rfl, rfl⟩ : attacker = event.attacker ∧ cause = event.cause := by
        simpa [Deed.source, DamageEvent.source] using source
      exact .inl ⟨raw, listed⟩
  | drop =>
      obtain ⟨nobody, fall⟩ : none = event.attacker ∧ Cause.pit = event.cause := by
        simpa [Deed.source, DamageEvent.source] using source
      exact .inr ⟨nobody.symm, fall.symm, listed⟩
  | _ => cases source

/-! ## Cooldowns -/

theorem cooldowns_struck (s : FighterState) (amount : Float32) :
    (s.struck amount).cooldowns = s.cooldowns := by
  unfold FighterState.struck
  split <;> rfl

/-- Only a trigger starts a cooldown. -/
theorem cooldowns_effect (d : Deed) (spared : ∀ slot ms, d ≠ .trigger slot ms) :
    (d.effect timestamp e s).state.cooldowns = s.cooldowns := by
  cases d with
  | trigger slot ms => exact absurd rfl (spared slot ms)
  | harm attacker raw cause =>
      simp only [Deed.effect]
      split
      · split
        · exact cooldowns_struck s _
        · rfl
      · rfl
  | drop =>
      simp only [Deed.effect]
      split <;> rfl
  | _ => rfl

/-- A cooldown is the one that was started, or as it was. -/
theorem cooldown_endure {slot : Nat} {ms : Float32} (ds : List Deed)
    (alike : ∀ ms', .trigger slot ms' ∈ ds → ms' = ms) :
    (endure timestamp e s ds).state.cooldowns[slot]? =
      s.cooldowns[slot]?.map fun cooldown =>
        if Deed.trigger slot ms ∈ ds then larger ms 0 else cooldown := by
  induction ds generalizing s with
  | nil => simp [endure, Fate.quiet]
  | cons d ds ih =>
      have later := ih (s := (d.effect timestamp e s).state) fun ms' member =>
        alike ms' (List.mem_cons_of_mem d member)
      have after : (endure timestamp e s (d :: ds)).state.cooldowns =
          (endure timestamp e (d.effect timestamp e s).state ds).state.cooldowns := rfl
      rw [after, later]
      by_cases here : d = .trigger slot ms
      · subst here
        cases known : s.cooldowns[slot]? <;>
          simp [Deed.effect, Fate.quiet, FighterState.trigger, known]
      · have kept : (d.effect timestamp e s).state.cooldowns[slot]? = s.cooldowns[slot]? := by
          cases d with
          | trigger slot' ms' =>
              have elsewhere : slot' ≠ slot := by
                rintro rfl
                exact here (by rw [alike ms' List.mem_cons_self])
              simp [Deed.effect, Fate.quiet, FighterState.trigger, elsewhere]
          | _ =>
              rw [cooldowns_effect]
              intro slot' ms' same
              cases same
        rw [kept]
        simp [Ne.symm here]

/-! ## Cooldowns start whenever -/

/-- Starting a cooldown and another deed can change places. -/
theorem effect_trigger_comm (slot : Nat) (ms : Float32) {d : Deed}
    (other : ∀ slot ms, d ≠ .trigger slot ms) :
    endure timestamp e s [.trigger slot ms, d] = endure timestamp e s [d, .trigger slot ms] := by
  cases d with
  | trigger slot' ms' => exact absurd rfl (other slot' ms')
  | harm attacker raw cause =>
      have struck : ∀ amount,
          (s.trigger slot ms).struck amount = (s.struck amount).trigger slot ms := by
        intro amount
        have same : (s.trigger slot ms).remaining amount = s.remaining amount := rfl
        unfold FighterState.struck
        rw [same]
        split <;> rfl
      have alive : (s.trigger slot ms).isAlive = s.isAlive := rfl
      have maxHp : (s.trigger slot ms).maxHp = s.maxHp := rfl
      simp only [endure, Deed.effect, Fate.quiet, Fate.followedBy, alive, maxHp, struck]
      split
      · split <;> simp
      · simp
  | drop =>
      have alive : (s.trigger slot ms).isAlive = s.isAlive := rfl
      simp only [endure, Deed.effect, Fate.quiet, Fate.followedBy, alive]
      split <;> simp [Hazards.fallen, FighterState.destroy, FighterState.trigger]
  | _ => rfl

/-- So can any number of cooldowns and other deeds. -/
theorem endure_swap {triggers others : List Deed}
    (started : ∀ d ∈ triggers, ∃ slot ms, d = .trigger slot ms)
    (other : ∀ d ∈ others, ∀ slot ms, d ≠ .trigger slot ms) :
    endure timestamp e s (triggers ++ others) = endure timestamp e s (others ++ triggers) := by
  have pass : ∀ (slot : Nat) (ms : Float32) (ds : List Deed) (s : FighterState),
      (∀ d ∈ ds, ∀ slot ms, d ≠ .trigger slot ms) →
        endure timestamp e s (.trigger slot ms :: ds) =
          endure timestamp e s (ds ++ [.trigger slot ms]) := by
    intro slot ms ds
    induction ds with
    | nil => exact fun _ _ => rfl
    | cons d ds ih =>
        intro s other
        have swapped : endure timestamp e s [.trigger slot ms, d] =
            endure timestamp e s [d, .trigger slot ms] :=
          effect_trigger_comm slot ms (other d List.mem_cons_self)
        have later := ih (d.effect timestamp e s).state fun d' member =>
          other d' (List.mem_cons_of_mem d member)
        calc endure timestamp e s ([.trigger slot ms, d] ++ ds)
            = endure timestamp e s (d :: .trigger slot ms :: ds) := by
              rw [endure_append, swapped, ← endure_append]
              rfl
          _ = endure timestamp e s (d :: (ds ++ [.trigger slot ms])) :=
              congrArg (d.effect timestamp e s).followedBy later
  induction triggers generalizing s with
  | nil => simp
  | cons t triggers ih =>
      obtain ⟨slot, ms, rfl⟩ := started t List.mem_cons_self
      have rest := ih (s := s.trigger slot ms) fun d member =>
        started d (List.mem_cons_of_mem _ member)
      calc endure timestamp e s (.trigger slot ms :: (triggers ++ others))
          = endure timestamp e s (.trigger slot ms :: (others ++ triggers)) :=
            congrArg (Fate.followedBy _) rest
        _ = endure timestamp e s (.trigger slot ms :: others ++ triggers) := rfl
        _ = endure timestamp e s ((others ++ [.trigger slot ms]) ++ triggers) := by
            rw [endure_append, pass slot ms others s other, ← endure_append]
        _ = endure timestamp e s (others ++ .trigger slot ms :: triggers) := by
            rw [List.append_assoc]
            rfl

end Endure

namespace Ruling

variable {scene : Scene} {r : Ruling}

/-- What a ruling holds for the entrant at a place. -/
structure Holds (r : Ruling) (place : Nat) (e : Entrant) (f : Fate) : Prop where
  state : r.states[place]? = some f.state
  damage : e.suffered r.damage = f.damage
  pushes : entriesAt place r.pushes = f.pushes

/-- States under the ids of their entrants. -/
def Named (scene : Scene) (r : Ruling) : Prop :=
  r.states.map (·.id) = scene.roster.entrants.map Entrant.id

theorem Named.full (named : r.Named scene) : r.Full scene := by
  simpa [Full, Roster.size] using congrArg List.length named

theorem Named.id (named : r.Named scene) {place : Nat} {e : Entrant} {s : FighterState}
    (entered : scene.roster.get? place = some e) (lookup : r.states[place]? = some s) :
    s.id = e.id := by
  have ids := congrArg (fun ids : List String => ids[place]?) named
  have present : scene.roster.entrants[place]? = some e := entered
  simpa [lookup, present] using ids

/-- One state for each entrant, under its id if deeds let a fighter fall. -/
structure Ready (scene : Scene) (ds : List (Nat × Deed)) (r : Ruling) : Prop where
  full : r.Full scene
  named : (∃ d ∈ ds, d.2 = .drop) → r.Named scene

section Ready

variable {ds : List (Nat × Deed)} {d : Nat × Deed}

theorem Named.ready (named : r.Named scene) : r.Ready scene ds := ⟨named.full, fun _ => named⟩

theorem Ready.after (ready : r.Ready scene (d :: ds)) : (r.perform scene d).Ready scene ds where
  full := ready.full.after d
  named := by
    rintro ⟨d', member, fall⟩
    have named := ready.named ⟨d', List.mem_cons_of_mem d member, fall⟩
    rcases named.full.lookup d.1 with ⟨e, s, entered, lookup⟩ | ⟨missing, -⟩
    · rw [perform_of_lookup entered lookup]
      exact (map_set lookup (id_effect d.2)).trans named
    · rw [perform_of_missing missing]
      exact named

theorem Ready.id (ready : r.Ready scene (d :: ds)) {place : Nat} {e : Entrant} {s : FighterState}
    (entered : scene.roster.get? place = some e) (lookup : r.states[place]? = some s) :
    d.2 = .drop → s.id = e.id :=
  fun fall => (ready.named ⟨d, List.mem_cons_self, fall⟩).id entered lookup

/-- A deed makes of its fighter what it makes of any entrant in that state. -/
theorem Holds.here {place : Nat} {d : Deed} (ready : r.Ready scene ((place, d) :: ds))
    {e : Entrant} {f : Fate} (entered : scene.roster.get? place = some e)
    (holds : r.Holds place e f) :
    (r.perform scene (place, d)).Holds place e
      (f.followedBy (d.effect scene.timestamp e f.state)) := by
  have inside : place < r.states.length := (List.getElem?_eq_some_iff.mp holds.state).1
  have own : e.suffered (d.effect scene.timestamp e f.state).damage =
      (d.effect scene.timestamp e f.state).damage := by
    refine List.filter_eq_self.mpr fun event member => ?_
    simp [(event_of_effect (ready.id entered holds.state) member).1]
  rw [perform_of_lookup entered holds.state]
  constructor
  · exact List.getElem?_set_self inside
  · show (r.damage ++ _).filter _ = _
    rw [List.filter_append]
    exact congrArg₂ _ holds.damage own
  · simp [holds.pushes, Fate.followedBy]

/-- A deed at another place leaves it as it is. -/
theorem Holds.elsewhere (distinct : (scene.roster.entrants.map Entrant.id).Nodup)
    (ready : r.Ready scene (d :: ds)) {place : Nat} {e : Entrant} {f : Fate}
    (entered : scene.roster.get? place = some e) (holds : r.Holds place e f)
    (other : d.1 ≠ place) : (r.perform scene d).Holds place e f := by
  rcases ready.full.lookup d.1 with ⟨e', s', entered', lookup⟩ | ⟨missing, -⟩
  · have foreign : e.suffered (d.2.effect scene.timestamp e' s').damage = [] := by
      refine List.filter_eq_nil_iff.mpr fun event member => ?_
      rw [(event_of_effect (ready.id entered' lookup) member).1, decide_eq_true_eq]
      exact fun same => other (Roster.place_of_distinct distinct entered' entered same)
    rw [perform_of_lookup entered' lookup]
    constructor
    · exact (List.getElem?_set_ne other).trans holds.state
    · show (r.damage ++ _).filter _ = _
      rw [List.filter_append]
      exact (congrArg₂ _ holds.damage foreign).trans (List.append_nil _)
    · simp [holds.pushes, entriesAt_map_other other]
  · rw [perform_of_missing missing]
    exact holds

end Ready

/-- What deeds come to for a fighter is what those at its place come to. -/
theorem Holds.performAll (distinct : (scene.roster.entrants.map Entrant.id).Nodup) {place : Nat}
    {e : Entrant} (entered : scene.roster.get? place = some e) (ds : List (Nat × Deed)) :
    ∀ {r : Ruling} {f : Fate}, r.Ready scene ds → r.Holds place e f →
      (ds.foldl (perform scene) r).Holds place e
        (f.followedBy (endure scene.timestamp e f.state (entriesAt place ds))) := by
  induction ds with
  | nil =>
      intro r f ready holds
      simpa [endure] using holds
  | cons d ds ih =>
      intro r f ready holds
      obtain ⟨owner, d⟩ := d
      by_cases here : owner = place
      · subst here
        have later := ih ready.after (holds.here ready entered)
        rw [Fate.followedBy_assoc] at later
        rw [entriesAt_cons_self]
        exact later
      · rw [entriesAt_cons_other here]
        exact ih ready.after (holds.elsewhere distinct ready entered here)

/-- Deeds record events against entrants, with the time. -/
theorem told_performAll (ds : List (Nat × Deed)) {event : DamageEvent} :
    ∀ {r : Ruling}, r.Ready scene ds → event ∈ (ds.foldl (perform scene) r).damage →
      event ∈ r.damage ∨
        (∃ place e, scene.roster.get? place = some e ∧ event.target = e.id) ∧
          event.timestamp = scene.timestamp := by
  induction ds with
  | nil => exact fun _ member => .inl member
  | cons d ds ih =>
      intro r ready member
      rcases ih ready.after member with first | later
      · rcases ready.full.lookup d.1 with ⟨e, s, entered, lookup⟩ | ⟨missing, -⟩
        · rw [perform_of_lookup entered lookup] at first
          rcases List.mem_append.mp first with before | now
          · exact .inl before
          · obtain ⟨target, timestamp⟩ := event_of_effect (ready.id entered lookup) now
            exact .inr ⟨⟨d.1, e, entered, target⟩, timestamp⟩
        · rw [perform_of_missing missing] at first
          exact .inl first
      · exact .inr later

/-- The ruling on contacts records events against entrants, with the time. -/
theorem ofContacts_told {current next : List FighterState}
    (named : next.map (·.id) = scene.roster.entrants.map Entrant.id) {contacts : List Contact}
    {event : DamageEvent} (member : event ∈ (ofContacts scene current next contacts).damage) :
    (∃ place e, scene.roster.get? place = some e ∧ event.target = e.id) ∧
      event.timestamp = scene.timestamp := by
  have begun : (start next).Named scene := named
  have full : next.length = scene.roster.size := begun.full
  rw [ofContacts_eq_perform full] at member
  rcases told_performAll _ begun.ready member with before | told
  · cases before
  · exact told

/-- The fate of a fighter in the ruling on contacts. -/
theorem ofContacts_holds (distinct : (scene.roster.entrants.map Entrant.id).Nodup)
    {current next : List FighterState}
    (named : next.map (·.id) = scene.roster.entrants.map Entrant.id) (contacts : List Contact)
    {place : Nat} {e : Entrant} {s : FighterState} (entered : scene.roster.get? place = some e)
    (lookup : next[place]? = some s) :
    (ofContacts scene current next contacts).Holds place e
      (endure scene.timestamp e s (entriesAt place (deeds scene current contacts))) := by
  have begun : (start next).Named scene := named
  have fresh : (start next).Holds place e (.quiet s) := ⟨lookup, rfl, rfl⟩
  have full : next.length = scene.roster.size := begun.full
  have ruled := fresh.performAll distinct entered (deeds scene current contacts) begun.ready
  rw [Fate.quiet_followedBy, ← ofContacts_eq_perform full] at ruled
  exact ruled

/-! ## Damage without an answer -/

/-- Among the deeds at a place is damage that finds no range of hit points. -/
def Unscored (scene : Scene) (r : Ruling) (ds : List (Nat × Deed)) (place : Nat) : Prop :=
  ∃ e s, scene.roster.get? place = some e ∧ r.states[place]? = some s ∧
    (endure scene.timestamp e s (entriesAt place ds)).unscorable = true

/-- The first of some deeds goes without an answer, or those after it do. -/
theorem unscored_cons_iff (full : r.Full scene) (d : Nat × Deed) (ds : List (Nat × Deed)) :
    r.unscorable = true ∨ (∃ place, r.Unscored scene (d :: ds) place) ↔
      (r.perform scene d).unscorable = true ∨
        ∃ place, (r.perform scene d).Unscored scene ds place := by
  obtain ⟨owner, d⟩ := d
  rcases full.lookup owner with ⟨e, s, entered, lookup⟩ | ⟨missing, -⟩
  · have inside : owner < r.states.length := (List.getElem?_eq_some_iff.mp lookup).1
    rw [perform_of_lookup entered lookup]
    have here : r.Unscored scene ((owner, d) :: ds) owner ↔
        (d.effect scene.timestamp e s).unscorable = true ∨
          (endure scene.timestamp e (d.effect scene.timestamp e s).state
            (entriesAt owner ds)).unscorable = true := by
      simp [Unscored, entered, lookup, endure, Fate.followedBy]
    have elsewhere : ∀ place, place ≠ owner → (r.Unscored scene ((owner, d) :: ds) place ↔
        ∃ e' s', scene.roster.get? place = some e' ∧ r.states[place]? = some s' ∧
          (endure scene.timestamp e' s' (entriesAt place ds)).unscorable = true) := by
      intro place other
      rw [Unscored, entriesAt_cons_other (Ne.symm other)]
    constructor
    · rintro (before | ⟨place, unscored⟩)
      · exact .inl (by simp [before])
      · by_cases same : place = owner
        · subst same
          rcases here.mp unscored with first | later
          · exact .inl (by simp [first])
          · exact .inr ⟨place, e, _, entered, List.getElem?_set_self inside, later⟩
        · obtain ⟨e', s', entered', lookup', later⟩ := (elsewhere place same).mp unscored
          exact .inr ⟨place, e', s', entered',
            (List.getElem?_set_ne (Ne.symm same)).trans lookup', later⟩
    · rintro (before | ⟨place, e', s', entered', lookup', later⟩)
      · rcases Bool.or_eq_true_iff.mp before with before | first
        · exact .inl before
        · exact .inr ⟨owner, here.mpr (.inl first)⟩
      · by_cases same : place = owner
        · subst same
          obtain rfl : e = e' := Option.some.inj (entered.symm.trans entered')
          rw [List.getElem?_set_self inside] at lookup'
          obtain rfl := Option.some.inj lookup'
          exact .inr ⟨place, here.mpr (.inr later)⟩
        · rw [List.getElem?_set_ne (Ne.symm same)] at lookup'
          exact .inr ⟨place, (elsewhere place same).mpr ⟨e', s', entered', lookup', later⟩⟩
  · rw [perform_of_missing missing]
    refine or_congr_right (exists_congr fun place => ?_)
    by_cases same : place = owner
    · subst same
      simp [Unscored, missing]
    · rw [Unscored, entriesAt_cons_other (Ne.symm same), Unscored]

/-- Damage goes without an answer exactly if it does so at some place. -/
theorem unscorable_performAll (ds : List (Nat × Deed)) (full : r.Full scene) :
    (ds.foldl (perform scene) r).unscorable = true ↔
      r.unscorable = true ∨ ∃ place, r.Unscored scene ds place := by
  induction ds generalizing r with
  | nil => simp [Unscored, endure, Fate.quiet]
  | cons d ds ih => exact (ih (full.after d)).trans (unscored_cons_iff full d ds).symm

end Ruling

end RobotCombat
