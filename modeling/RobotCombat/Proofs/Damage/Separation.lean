/-
# RobotCombat.Proofs.Damage.Separation — the arena deals with each fighter apart

What walls and zones do to a fighter is decided by the contacts of that fighter, in their
order: its deeds are those of its own contacts (`Ruling.entriesAt_hazards`), and what becomes
of it depends on its own deeds alone (`resolve_holds`). So contacts of different fighters may
come in any order. A contact without a deed, one of two fighters or with a sensor that stands
for nothing, may as well be left out (`resolve_filter_acts`).

* `hazards_act_separately`: a fighter comes out of a list of contacts as it comes out of its
  own contacts, and with the same events against it.
-/
import RobotCombat.Proofs.Damage.Encounter

namespace RobotCombat

set_option autoImplicit false

/-- What a ruling has on record for an entrant in a state, with all of its damage scored. -/
def Ruling.held (r : Ruling) (place : Nat) (e : Entrant) (s : FighterState) : Fate :=
  ⟨s, e.suffered r.damage, entriesAt place r.pushes, false⟩

namespace Hazards

/-- Whether the arena has a rule for a contact: it is with a wall, or with a sensor that
stands for a hazard. -/
def acts (scene : Scene) (c : Contact) : Bool :=
  match c.other with
  | .wall _ => true
  | .sensor i => scene.arena.hazards[i]?.isSome
  | .body _ => false

variable {scene : Scene} {r : Ruling} {contacts contacts' : List Contact}

/-- Without a rule a contact has no effect. -/
theorem resolveContact_of_idle {c : Contact} (idle : acts scene c = false) :
    resolveContact scene r c = r := by
  unfold acts at idle
  unfold resolveContact
  cases known : c.other with
  | wall side => simp [known] at idle
  | body other => rfl
  | sensor i =>
      have missing : scene.arena.hazards[i]? = none := by simpa [known] using idle
      simp only [missing]

/-- Contacts without a rule may be left out. -/
theorem resolve_filter_acts (scene : Scene) (contacts : List Contact) (r : Ruling) :
    resolve scene (contacts.filter (acts scene)) r = resolve scene contacts r := by
  unfold resolve
  induction contacts generalizing r with
  | nil => rfl
  | cons c contacts ih =>
      cases known : acts scene c with
      | true => rw [List.filter_cons_of_pos known, List.foldl_cons, List.foldl_cons, ih]
      | false =>
          rw [List.filter_cons_of_neg (by simp [known]), List.foldl_cons,
            resolveContact_of_idle known, ih]

/-! ## The arena's deeds -/

/-- All that the arena does about contacts, each deed with its place. -/
def allDeeds (scene : Scene) (contacts : List Contact) : List (Nat × Deed) :=
  contacts.flatMap fun c => (deeds scene c).map (c.body, ·)

theorem resolve_eq_perform (full : r.Full scene) (contacts : List Contact) :
    resolve scene contacts r = (allDeeds scene contacts).foldl (Ruling.perform scene) r :=
  Ruling.foldl_eq_perform (fun {_} full c => full.hazards_eq c) contacts full

/-- The fate of a fighter is decided by its own contacts. -/
theorem resolve_holds (distinct : (scene.roster.entrants.map Entrant.id).Nodup)
    (named : r.Named scene) (contacts : List Contact) {place : Nat} {e : Entrant}
    {s : FighterState} (entered : scene.roster.get? place = some e)
    (lookup : r.states[place]? = some s) :
    (resolve scene contacts r).Holds place e
      ((r.held place e s).followedBy
        (endure scene.timestamp e s
          ((contacts.filter (·.body = place)).flatMap (deeds scene)))) := by
  have before : r.Holds place e (r.held place e s) := ⟨lookup, rfl, rfl⟩
  have after := before.performAll distinct entered (allDeeds scene contacts) named.ready
  rw [← resolve_eq_perform named.full, allDeeds, Ruling.entriesAt_hazards] at after
  exact after

theorem length_resolve (full : r.Full scene) (contacts : List Contact) :
    (resolve scene contacts r).states.length = scene.roster.size := by
  rw [resolve_eq_perform full]
  exact full.afterAll _

/-- Damage goes without an answer exactly if it does so for a fighter with its own
contacts. -/
theorem unscorable_resolve_iff (full : r.Full scene) (contacts : List Contact) :
    (resolve scene contacts r).unscorable = true ↔
      r.unscorable = true ∨
        ∃ place e s, scene.roster.get? place = some e ∧ r.states[place]? = some s ∧
          (endure scene.timestamp e s
            ((contacts.filter (·.body = place)).flatMap (deeds scene))).unscorable = true := by
  rw [resolve_eq_perform full, Ruling.unscorable_performAll _ full]
  simp only [Ruling.Unscored, allDeeds, Ruling.entriesAt_hazards]

/-! ## Contacts of one fighter -/

/-- Two lists that hold the same contacts of every fighter, each fighter's in the same
order: one is the other with contacts of different fighters interleaved anew. -/
def SameContacts (scene : Scene) (contacts contacts' : List Contact) : Prop :=
  ∀ place < scene.roster.size,
    contacts.filter (·.body = place) = contacts'.filter (·.body = place)

instance (scene : Scene) (contacts contacts' : List Contact) :
    Decidable (SameContacts scene contacts contacts') :=
  inferInstanceAs (Decidable (∀ place < scene.roster.size,
    contacts.filter (·.body = place) = contacts'.filter (·.body = place)))

/-- A fighter comes out the same of lists with the same contacts of it. -/
theorem resolve_congr_at (distinct : (scene.roster.entrants.map Entrant.id).Nodup)
    (named : r.Named scene) {place : Nat}
    (same : contacts.filter (·.body = place) = contacts'.filter (·.body = place)) :
    (resolve scene contacts r).states[place]? = (resolve scene contacts' r).states[place]? ∧
      ∀ e, scene.roster.get? place = some e →
        e.suffered (resolve scene contacts r).damage =
          e.suffered (resolve scene contacts' r).damage := by
  rcases named.full.lookup place with ⟨e, s, entered, lookup⟩ | ⟨missing, outside⟩
  · have first := resolve_holds distinct named contacts entered lookup
    have second := resolve_holds distinct named contacts' entered lookup
    rw [← same] at second
    refine ⟨first.state.trans second.state.symm, fun e' entered' => ?_⟩
    obtain rfl : e = e' := Option.some.inj (entered.symm.trans entered')
    exact first.damage.trans second.damage.symm
  · have short : scene.roster.size ≤ place :=
      named.full ▸ List.getElem?_eq_none_iff.mp outside
    refine ⟨?_, fun e entered => ?_⟩
    · rw [List.getElem?_eq_none, List.getElem?_eq_none] <;>
        rw [length_resolve named.full] <;> exact short
    · rw [missing] at entered
      cases entered

/-- With the same contacts of every fighter all states are the same, and damage goes
without an answer in both cases or in neither. -/
theorem resolve_congr (distinct : (scene.roster.entrants.map Entrant.id).Nodup)
    (named : r.Named scene) (same : SameContacts scene contacts contacts') :
    (resolve scene contacts r).states = (resolve scene contacts' r).states ∧
      (resolve scene contacts r).unscorable = (resolve scene contacts' r).unscorable := by
  constructor
  · refine List.ext_getElem? fun place => ?_
    by_cases inside : place < scene.roster.size
    · exact (resolve_congr_at distinct named (same place inside)).1
    · rw [List.getElem?_eq_none, List.getElem?_eq_none] <;>
        rw [length_resolve named.full] <;> omega
  · rw [Bool.eq_iff_iff, unscorable_resolve_iff named.full, unscorable_resolve_iff named.full]
    refine or_congr_right (exists_congr fun place => exists_congr fun e => exists_congr fun s =>
      and_congr_right fun entered => ?_)
    rw [same place (List.getElem?_eq_some_iff.mp entered).1]

theorem filter_own_other {place other : Nat} (apart : other ≠ place) :
    (contacts.filter (·.body = place)).filter (·.body = other) = [] := by
  refine List.filter_eq_nil_iff.mpr fun c member there => ?_
  have first : c.body = place := by simpa using (List.mem_filter.mp member).2
  have second : c.body = other := by simpa using there
  exact apart (second.symm.trans first)

theorem filter_own_own (place : Nat) :
    (contacts.filter (·.body = place)).filter (·.body = place) =
      contacts.filter (·.body = place) := by
  simp [List.filter_filter]

/-- Damage goes without an answer exactly if it does so in the contacts of one fighter. -/
theorem unscorable_resolve_iff_own (full : r.Full scene) (contacts : List Contact) :
    (resolve scene contacts r).unscorable = true ↔
      ∃ place, (resolve scene (contacts.filter (·.body = place)) r).unscorable = true := by
  rw [unscorable_resolve_iff full]
  simp only [unscorable_resolve_iff full]
  constructor
  · rintro (before | ⟨place, e, s, entered, lookup, unscored⟩)
    · exact ⟨0, .inl before⟩
    · refine ⟨place, .inr ⟨place, e, s, entered, lookup, ?_⟩⟩
      rw [filter_own_own]
      exact unscored
  · rintro ⟨place, before | ⟨other, e, s, entered, lookup, unscored⟩⟩
    · exact .inl before
    · by_cases here : other = place
      · subst here
        rw [filter_own_own] at unscored
        exact .inr ⟨other, e, s, entered, lookup, unscored⟩
      -- the contacts of one fighter are not those of another
      · rw [filter_own_other here] at unscored
        cases unscored

theorem filter_acts_own (place : Nat) (idle : ∀ c ∈ contacts, c.body = place →
    acts scene c = false) : (contacts.filter (acts scene)).filter (·.body = place) = [] := by
  refine List.filter_eq_nil_iff.mpr fun c member here => ?_
  obtain ⟨listed, active⟩ := List.mem_filter.mp member
  rw [idle c listed (by simpa using here)] at active
  cases active

/-- The arena deals with each fighter apart. Every fighter comes out of a list of contacts
in the state, and with the events against it, that its own contacts alone would give, in the
same order; damage goes without an answer exactly if it does so in the contacts of one of
them. So contacts of different fighters may be interleaved in any order. Contacts between
fighters and with sensors that stand for no hazard have no effect at all, and a fighter
without another contact is left as it was. -/
theorem hazards_act_separately (distinct : (scene.roster.entrants.map Entrant.id).Nodup)
    (named : r.Named scene) (contacts : List Contact) :
    let whole := resolve scene contacts r
    let own := fun place => resolve scene (contacts.filter (·.body = place)) r
    (∀ place, whole.states[place]? = (own place).states[place]? ∧
      ∀ e, scene.roster.get? place = some e →
        e.suffered whole.damage = e.suffered (own place).damage) ∧
    (whole.unscorable = true ↔ ∃ place, (own place).unscorable = true) ∧
    (∀ contacts', SameContacts scene contacts contacts' →
      (resolve scene contacts' r).states = whole.states ∧
      (resolve scene contacts' r).unscorable = whole.unscorable ∧
      ∀ e ∈ scene.roster.entrants,
        e.suffered (resolve scene contacts' r).damage = e.suffered whole.damage) ∧
    resolve scene (contacts.filter (acts scene)) r = whole ∧
    (∀ place, (∀ c ∈ contacts, c.body = place → acts scene c = false) →
      whole.states[place]? = r.states[place]? ∧
      ∀ e, scene.roster.get? place = some e → e.suffered whole.damage = e.suffered r.damage) := by
  intro whole own
  refine ⟨fun place => resolve_congr_at distinct named (filter_own_own place).symm,
    unscorable_resolve_iff_own named.full contacts, ?_, resolve_filter_acts scene contacts r, ?_⟩
  · intro contacts' same
    obtain ⟨states, unscorable⟩ := resolve_congr distinct named same
    refine ⟨states.symm, unscorable.symm, fun e member => ?_⟩
    obtain ⟨place, inside, entered⟩ := List.getElem_of_mem member
    have lookup : scene.roster.get? place = some e :=
      List.getElem?_eq_some_iff.mpr ⟨inside, entered⟩
    exact ((resolve_congr_at distinct named (same place inside)).2 e lookup).symm
  · intro place idle
    have alone : (contacts.filter (acts scene)).filter (·.body = place) =
        ([] : List Contact).filter (·.body = place) := filter_acts_own place idle
    have unmoved := resolve_congr_at distinct named alone
    rw [resolve_filter_acts] at unmoved
    exact unmoved

/-- A floor with a pit and a bed of spikes. -/
def pitAndSpikes : Arena :=
  { Arena.plain with
    hazards := [⟨.pit, ⟨400, 300⟩, ⟨80, 80⟩, none⟩, ⟨.spike, ⟨600, 300⟩, ⟨60, 60⟩, some 5⟩] }

/-- One fighter runs into a wall and falls, while the other one stands on spikes and runs
into a wall as well. -/
def scuffle : List Contact :=
  [⟨0, .body 1, .begun, 3⟩, ⟨0, .wall .left, .begun, 12⟩, ⟨1, .sensor 1, .persisting, 1⟩,
   ⟨0, .sensor 0, .begun, 2⟩, ⟨1, .wall .top, .begun, 10⟩, ⟨0, .sensor 1, .begun, 2⟩,
   ⟨1, .sensor 7, .begun, 1⟩]

/-- The same contacts, those of the second fighter first. -/
def scuffleTurned : List Contact :=
  scuffle.filter (·.body = 1) ++ scuffle.filter (·.body = 0)

/-- It is the same to both of them whose contacts are dealt with first, and to the first one
whether there are others at all. -/
theorem scuffle_in_either_order :
    let scene : Scene := ⟨.duel, pitAndSpikes, 100, 5⟩
    let r := Ruling.start Roster.duel.spawnStates
    let first := Entrant.of Roster.sawyer ⟨200, 300⟩ .stock
    (scene.roster.entrants.map Entrant.id).Nodup ∧ r.Named scene ∧
      SameContacts scene scuffle scuffleTurned ∧
      (resolve scene scuffleTurned r).states = (resolve scene scuffle r).states ∧
      (resolve scene scuffle r).states.map (·.isAlive) = [false, true] ∧
      (first.suffered (resolve scene scuffle r).damage).map (·.cause) = [.wall, .pit] ∧
      (first.suffered (resolve scene (scuffle.filter (·.body = 0)) r).damage).map (·.cause) =
        [.wall, .pit] := by
  intro scene r first
  have distinct : (scene.roster.entrants.map Entrant.id).Nodup := by decide
  have named : r.Named scene := rfl
  have same : SameContacts scene scuffle scuffleTurned := by decide
  obtain ⟨own, -, turned, -⟩ := hazards_act_separately distinct named scuffle
  have causes : (first.suffered (resolve scene scuffle r).damage).map (·.cause) =
      [.wall, .pit] := by
    decide +kernel
  refine ⟨distinct, named, same, (turned scuffleTurned same).1, by decide +kernel, causes, ?_⟩
  rw [← (own 0).2 first rfl]
  exact causes

end Hazards

end RobotCombat
