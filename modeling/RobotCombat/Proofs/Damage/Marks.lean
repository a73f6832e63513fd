/-
# RobotCombat.Proofs.Damage.Marks — which contacts set which marks

Blows set no mark (`map_strike`, `map_grind`, `map_hit`). So the marks of a fighter
after a ruling are read off the contacts: it is in contact if a contact `touches` it,
and on spikes if a contact says that it `enters` a spike zone. A fighter that enters a
pit is destroyed, and `FighterState.Marked` says what that leaves behind: one event in
the log, and no hit points.

* `ofContacts_inContact`, `ofContacts_onSpikes`: the marks of one tick;
* `ofContacts_pit`: nobody is alive in a pit;
* `ofContacts_marked`: the fall mark goes with one event of a fall.
-/
import RobotCombat.Proofs.Damage.Account

namespace RobotCombat

set_option autoImplicit false

open Number

/-! ## What contacts say of a fighter -/

namespace Contact

/-- Whether the fighter at a place takes part in a contact of fighters. -/
def touches (c : Contact) (place : Nat) : Bool :=
  match c.other with
  | .body other => c.body = place || other = place
  | _ => false

/-- The kind of the zone that a contact is about. -/
def zone? (c : Contact) (a : Arena) : Option HazardKind :=
  match c.other with
  | .sensor i => a.hazards[i]?.map (·.kind)
  | _ => none

/-- Whether the fighter at a place reaches a zone of a kind. -/
def enters (c : Contact) (a : Arena) (kind : HazardKind) (place : Nat) : Bool :=
  c.body = place && c.zone? a = some kind

end Contact

namespace Ruling

variable {scene : Scene}

/-! ## Blows set no mark -/

section Blows

variable {α : Type} {f : FighterState → α}
  (struck : ∀ (s : FighterState) (amount : Float32), f (s.struck amount) = f s)
  (triggered : ∀ (s : FighterState) (slot : Nat) (ms : Float32), f (s.trigger slot ms) = f s)
include struck

theorem map_hit (attacker : Option Nat) (target : Nat) (raw : Float32) (cause : Cause)
    (r : Ruling) :
    (r.hit scene attacker target raw cause).states.map f = r.states.map f := by
  rcases hit_cases scene attacker target raw cause r with
    same | ⟨e, s, applied, -, lookup, -, -, -, hurt⟩ | ⟨s, -, -, unscored⟩
  · rw [same]
  · rw [hurt]
    exact map_set lookup (struck s applied)
  · rw [unscored]

theorem map_grind (current : List FighterState) (attacker target : Nat) (r : Ruling) :
    (Combat.grind scene current attacker target r).states.map f = r.states.map f := by
  unfold Combat.grind
  split
  · split
    · apply foldl_keeps _ fun r : Ruling => r.states.map f
      intro r m
      exact map_hit struck _ _ _ _ r
    · rfl
  · rfl

include triggered

theorem map_strike (current : List FighterState) (attacker target : Nat) (speed : Float32)
    (r : Ruling) :
    (Combat.strike scene current attacker target speed r).states.map f = r.states.map f := by
  unfold Combat.strike
  split
  · split
    · refine (map_hit struck _ _ _ _ _).trans ?_
      apply foldl_keeps _ fun r : Ruling => r.states.map f
      intro r t
      exact map_modify (fun s => triggered s t.1 t.2) _ _
    · rfl
  · rfl

end Blows

/-- The marks that a contact of fighters sets. -/
def touch (r : Ruling) (c : Contact) : Ruling :=
  match c.other with
  | .body other =>
    (r.mark c.body fun s => { s with inContact := true }).mark other
      fun s => { s with inContact := true }
  | _ => r

/-- The marks that a contact with a zone of the arena sets on a fighter that lives. -/
def prick (scene : Scene) (r : Ruling) (c : Contact) : Ruling :=
  if c.zone? scene.arena = some .spike then
    r.mark c.body fun s => { s with onSpikes := true }
  else r

theorem map_combat {α : Type} {f : FighterState → α}
    (struck : ∀ (s : FighterState) (amount : Float32), f (s.struck amount) = f s)
    (triggered : ∀ (s : FighterState) (slot : Nat) (ms : Float32), f (s.trigger slot ms) = f s)
    (current : List FighterState) (r : Ruling) (c : Contact) :
    (Combat.resolveContact scene current r c).states.map f = (r.touch c).states.map f := by
  unfold Combat.resolveContact touch
  cases c.other with
  | wall side => rfl
  | sensor i => rfl
  | body other =>
      refine (map_grind struck current _ _ _).trans ((map_grind struck current _ _ _).trans ?_)
      dsimp only
      split
      · exact (map_strike struck triggered current _ _ _ _).trans
          (map_strike struck triggered current _ _ _ _)
      · rfl

/-- What the arena does about a contact: a fighter falls into a pit or stands on
spikes, or it may have run into a wall. -/
theorem hazards_cases (scene : Scene) (r : Ruling) (c : Contact) :
    (c.zone? scene.arena = some .pit ∧
      Hazards.resolveContact scene r c = Hazards.pit scene c.body r) ∨
    (c.zone? scene.arena = some .spike ∧
      ∃ rating, Hazards.resolveContact scene r c = Hazards.spikes scene c.body rating r) ∨
    (c.zone? scene.arena = none ∧
      (Hazards.resolveContact scene r c = Hazards.wall scene c r ∨
        Hazards.resolveContact scene r c = r)) := by
  unfold Hazards.resolveContact Contact.zone?
  cases c.other with
  | body other => exact .inr (.inr ⟨rfl, .inr rfl⟩)
  | wall side => exact .inr (.inr ⟨rfl, .inl rfl⟩)
  | sensor i =>
      dsimp only
      cases scene.arena.hazards[i]? with
      | none => exact .inr (.inr ⟨rfl, .inr rfl⟩)
      | some h =>
          cases kind : h.kind with
          | pit => simp [kind]
          | spike => exact .inr (.inl ⟨by simp [kind], h.damage, by simp [kind]⟩)

theorem map_hazards {α : Type} {f : FighterState → α}
    (struck : ∀ (s : FighterState) (amount : Float32), f (s.struck amount) = f s)
    (fallen : ∀ s, f (Hazards.fallen s) = f s) (r : Ruling) (c : Contact) :
    (Hazards.resolveContact scene r c).states.map f = (r.prick scene c).states.map f := by
  unfold prick
  rcases hazards_cases scene r c with
    ⟨zone, same⟩ | ⟨zone, rating, same⟩ | ⟨zone, same | same⟩ <;> rw [same, zone]
  · simp only [Option.some.injEq, reduceCtorEq, if_false]
    unfold Hazards.pit
    split
    · rename_i s lookup
      split
      · exact map_set lookup (fallen s)
      · rfl
    · rfl
  · exact map_hit struck none c.body _ .spikes _
  · unfold Hazards.wall
    split
    · rfl
    · exact map_hit struck none c.body _ .wall r
  · rfl

/-! ## Marks, contact by contact -/

/-- A mark that each contact sets or leaves is set after all of them if one sets it. -/
theorem foldl_mark {f : Ruling → Contact → Ruling} {mark : FighterState → Bool}
    {sets : Contact → Bool} {place : Nat}
    (each : ∀ r c, ((f r c).states.map mark)[place]? =
      (r.states.map mark)[place]?.map (· || sets c)) (contacts : List Contact) (r : Ruling) :
    ((contacts.foldl f r).states.map mark)[place]? =
      (r.states.map mark)[place]?.map (· || contacts.any sets) := by
  induction contacts generalizing r with
  | nil => simp [Function.comp_def]
  | cons c contacts ih =>
      rw [List.foldl_cons, ih, each, Option.map_map]
      simp [Function.comp_def, Bool.or_assoc]

theorem getElem?_touch (r : Ruling) (c : Contact) (place : Nat) :
    ((r.touch c).states.map (·.status.inContact))[place]? =
      (r.states.map (·.status.inContact))[place]?.map (· || c.touches place) := by
  unfold touch Contact.touches
  cases c.other with
  | wall side => simp [Function.comp_def]
  | sensor i => simp [Function.comp_def]
  | body other =>
      cases lookup : r.states[place]? with
      | none => simp [mark, modify, List.getElem?_modify, lookup]
      | some s =>
          by_cases c.body = place <;> by_cases other = place <;>
            simp [mark, modify, *]

theorem getElem?_prick (r : Ruling) (c : Contact) (place : Nat) :
    ((r.prick scene c).states.map (·.status.onSpikes))[place]? =
      (r.states.map (·.status.onSpikes))[place]?.map (· || c.enters scene.arena .spike place) := by
  unfold prick Contact.enters
  by_cases zone : c.zone? scene.arena = some .spike
  · cases lookup : r.states[place]? with
    | none => simp [mark, modify, List.getElem?_modify, lookup, zone]
    | some s =>
        by_cases c.body = place <;> simp [mark, modify, *]
  · simp [zone, Function.comp_def]

end Ruling

theorem FighterState.marks_struck (s : FighterState) (amount : Float32) :
    (s.struck amount).status.inContact = s.status.inContact ∧
      (s.struck amount).status.onSpikes = s.status.onSpikes ∧
      (s.struck amount).status.inPit = s.status.inPit := by
  unfold struck
  split <;> exact ⟨rfl, rfl, rfl⟩

namespace Ruling

variable {scene : Scene}

theorem inContact_combat (current : List FighterState) (place : Nat) (r : Ruling) (c : Contact) :
    ((Combat.resolveContact scene current r c).states.map (·.status.inContact))[place]? =
      (r.states.map (·.status.inContact))[place]?.map (· || c.touches place) := by
  rw [map_combat (fun s amount => (s.marks_struck amount).1) fun _ _ _ => rfl, getElem?_touch]

theorem inContact_hazards (r : Ruling) (c : Contact) :
    (Hazards.resolveContact scene r c).states.map (·.status.inContact) =
      r.states.map (·.status.inContact) := by
  rw [map_hazards (fun s amount => (s.marks_struck amount).1) fun _ => rfl]
  unfold prick
  split
  · exact map_mark (fun _ => rfl) _ _
  · rfl

theorem onSpikes_combat (current : List FighterState) (r : Ruling) (c : Contact) :
    (Combat.resolveContact scene current r c).states.map (·.status.onSpikes) =
      r.states.map (·.status.onSpikes) := by
  rw [map_combat (fun s amount => (s.marks_struck amount).2.1) fun _ _ _ => rfl]
  unfold touch
  split
  · exact (map_mark (fun _ => rfl) _ _).trans (map_mark (fun _ => rfl) _ _)
  · rfl

theorem onSpikes_hazards (place : Nat) (r : Ruling) (c : Contact) :
    ((Hazards.resolveContact scene r c).states.map (·.status.onSpikes))[place]? =
      (r.states.map (·.status.onSpikes))[place]?.map (· || c.enters scene.arena .spike place) := by
  rw [map_hazards (fun s amount => (s.marks_struck amount).2.1) fun _ => rfl, getElem?_prick]

variable (current next : List FighterState) (contacts : List Contact) (place : Nat)

/-- A fighter is marked in contact by the contacts of fighters that it takes part in. -/
theorem ofContacts_inContact :
    ((ofContacts scene current next contacts).states.map (·.status.inContact))[place]? =
      (next.map (·.status.inContact))[place]?.map (· || contacts.any (·.touches place)) := by
  have spared := foldl_keeps (Hazards.resolveContact scene)
    (fun r => r.states.map (·.status.inContact)) inContact_hazards contacts
  refine (congrArg (·[place]?) (spared _)).trans ?_
  exact foldl_mark (inContact_combat current place) contacts (start next)

/-- A fighter is marked on spikes by the contacts with spike zones that it reaches. -/
theorem ofContacts_onSpikes :
    ((ofContacts scene current next contacts).states.map (·.status.onSpikes))[place]? =
      (next.map (·.status.onSpikes))[place]?.map
        (· || contacts.any (·.enters scene.arena .spike place)) := by
  have fought := foldl_keeps (Combat.resolveContact scene current)
    (fun r => r.states.map (·.status.onSpikes)) (onSpikes_combat current) contacts (start next)
  refine (foldl_mark (onSpikes_hazards place) contacts _).trans ?_
  exact congrArg (fun marks => marks[place]?.map _) fought

/-! ## Pits -/

section Pits

variable {r r' : Ruling} {place : Nat}

/-- The destroyed are not the living that are hurt or fall. -/
theorem destroyed_set {target : Nat} {s s' : FighterState} (lookup : r.states[target]? = some s)
    (alive : s.isAlive = true) (destroyed : (r.states.map (·.isAlive))[place]? = some false) :
    ((r.states.set target s').map (·.isAlive))[place]? = some false := by
  have elsewhere : target ≠ place := by
    rintro rfl
    simp [lookup, alive] at destroyed
  rw [List.map_set, List.getElem?_set_ne elsewhere]
  exact destroyed

/-- No change brings the destroyed back. -/
theorem Change.stays_destroyed (change : Change scene r r')
    (destroyed : (r.states.map (·.isAlive))[place]? = some false) :
    (r'.states.map (·.isAlive))[place]? = some false := by
  cases change with
  | touch => rw [map_mark fun _ => rfl]; exact destroyed
  | prick => rw [map_mark fun _ => rfl]; exact destroyed
  | trigger fighter slot ms =>
      have same : (r.states.modify fighter fun s => s.trigger slot ms).map (·.isAlive) =
          r.states.map (·.isAlive) := by
        apply map_modify
        exact fun _ => rfl
      exact (congrArg (·[place]?) same).trans destroyed
  | kick pushes => exact destroyed
  | hurt attacker cause entered lookup alive => exact destroyed_set lookup alive destroyed
  | unscored => exact destroyed
  | fall lookup alive => exact destroyed_set lookup alive destroyed

theorem Reaches.stays_destroyed (reaches : Reaches scene r r')
    (destroyed : (r.states.map (·.isAlive))[place]? = some false) :
    (r'.states.map (·.isAlive))[place]? = some false :=
  reaches.invariant (P := fun r => (r.states.map (·.isAlive))[place]? = some false)
    (fun change => change.stays_destroyed) destroyed

theorem Reaches.length (reaches : Reaches scene r r') : r'.states.length = r.states.length := by
  simpa using congrArg List.length reaches.outside

theorem pit_destroys (inside : place < r.states.length) :
    ((Hazards.pit scene place r).states.map (·.isAlive))[place]? = some false := by
  unfold Hazards.pit
  have lookup := List.getElem?_eq_getElem inside
  rw [lookup]
  dsimp only
  split
  · rw [List.map_set, List.getElem?_set_self (by simpa using inside)]
    rfl
  · rename_i destroyed
    simpa [lookup] using destroyed

theorem hazards_of_pit {c : Contact} (zone : c.zone? scene.arena = some .pit) :
    Hazards.resolveContact scene r c = Hazards.pit scene c.body r := by
  rcases hazards_cases scene r c with ⟨-, same⟩ | ⟨spikes, -⟩ | ⟨none, -⟩
  · exact same
  · simp [zone] at spikes
  · simp [zone] at none

/-- Nobody lives that enters a pit. -/
theorem ofContacts_pit (current : List FighterState) {next : List FighterState}
    {contacts : List Contact} (inside : place < next.length)
    (entered : contacts.any (·.enters scene.arena .pit place) = true) :
    ((ofContacts scene current next contacts).states.map (·.isAlive))[place]? = some false := by
  obtain ⟨c, member, enters⟩ := List.any_eq_true.mp entered
  simp only [Contact.enters, Bool.and_eq_true, decide_eq_true_eq] at enters
  obtain ⟨rfl, zone⟩ := enters
  obtain ⟨before, after, rfl⟩ := List.append_of_mem member
  let fought := Combat.resolve scene current (before ++ c :: after) (start next)
  have earlier : Reaches scene (start next) (before.foldl (Hazards.resolveContact scene) fought) :=
    (foldl_reaches _ (combat_reaches current) _ _).trans (foldl_reaches _ hazards_reaches _ _)
  have there : c.body < (before.foldl (Hazards.resolveContact scene) fought).states.length :=
    earlier.length.symm ▸ inside
  unfold ofContacts Hazards.resolve
  rw [List.foldl_append, List.foldl_cons, hazards_of_pit zone]
  exact Reaches.stays_destroyed (foldl_reaches _ hazards_reaches after _) (pit_destroys there)

end Pits

end Ruling

/-! ## The account of falls -/

/-- The falls of an entrant in a log. -/
def Entrant.falls (e : Entrant) (log : List DamageEvent) : List DamageEvent :=
  (e.suffered log).filter fun event => event.cause = .pit

/-- A state without living dead: no hit points are left to the destroyed, who is marked
in a pit is destroyed, and the log has one fall of those and none of others. -/
structure FighterState.Marked (log : List DamageEvent) (e : Entrant) (s : FighterState) :
    Prop where
  id : s.id = e.id
  empty : s.isAlive = false → s.hp = 0
  below : s.status.inPit = true → s.isAlive = false
  falls : (e.falls log).length = if s.status.inPit then 1 else 0

namespace FighterState

variable {log : List DamageEvent} {e : Entrant} {s s' : FighterState} {event : DamageEvent}

theorem Marked.congr (marked : s.Marked log e) (id : s'.id = s.id) (hp : s'.hp = s.hp)
    (alive : s'.isAlive = s.isAlive) (inPit : s'.status.inPit = s.status.inPit) :
    s'.Marked log e where
  id := id.trans marked.id
  empty := by rw [alive, hp]; exact marked.empty
  below := by rw [alive, inPit]; exact marked.below
  falls := by rw [inPit]; exact marked.falls

/-- An event against another fighter or one that is no fall changes nothing. -/
theorem Marked.other (marked : s.Marked log e)
    (other : event.target ≠ e.id ∨ event.cause ≠ .pit) : s.Marked (log ++ [event]) e where
  id := marked.id
  empty := marked.empty
  below := marked.below
  falls := by
    rw [← marked.falls]
    unfold Entrant.falls Entrant.suffered
    rcases other with target | cause <;> simp [List.filter_append, *]

theorem Marked.struck (marked : s.Marked log e) (alive : s.isAlive = true) (amount : Float32) :
    (s.struck amount).Marked log e := by
  unfold FighterState.struck
  split
  · exact ⟨marked.id, fun _ => rfl, fun _ => rfl, marked.falls⟩
  · refine ⟨marked.id, fun (destroyed : s.isAlive = false) => ?_, marked.below, marked.falls⟩
    simp [alive] at destroyed

/-- A fall is logged once, since who falls has not fallen. -/
theorem Marked.fallen (marked : s.Marked log e) (alive : s.isAlive = true)
    (self : event.target = e.id) (fall : event.cause = .pit) :
    (Hazards.fallen s).Marked (log ++ [event]) e where
  id := marked.id
  empty := fun _ => rfl
  below := fun _ => rfl
  falls := by
    have fresh : s.status.inPit = false := by
      by_contra fell
      simp [marked.below (by simpa using fell)] at alive
    have before := marked.falls
    simp only [fresh, Entrant.falls, Bool.false_eq_true, if_false] at before
    simp [Entrant.falls, e.suffered_snoc_self log self, fall, before, Hazards.fallen]

theorem marked_spawnState (e : Entrant) : e.spawnState.Marked [] e where
  id := rfl
  empty := nofun
  below := nofun
  falls := rfl

end FighterState

namespace Ruling

variable {scene : Scene} {r r' : Ruling}

theorem Change.marked (entered : scene.roster.Entered) (log : List DamageEvent)
    (change : Change scene r r')
    (marked : scene.roster.Each (FighterState.Marked (log ++ r.damage)) r.states) :
    scene.roster.Each (FighterState.Marked (log ++ r'.damage)) r'.states := by
  cases change with
  | touch place => exact marked.modify place fun kept => kept.congr rfl rfl rfl rfl
  | prick place => exact marked.modify place fun kept => kept.congr rfl rfl rfl rfl
  | trigger place slot ms => exact marked.modify place fun kept => kept.congr rfl rfl rfl rfl
  | kick pushes => exact marked
  | unscored => exact marked
  | hurt attacker cause present lookup alive positive range blow =>
      rw [← List.append_assoc]
      refine marked.set ?_ ?_
      · intro e present'
        exact ((marked.holds present' lookup).struck alive _).other (.inr blow)
      · intro other e s _ _ kept
        exact kept.other (.inr blow)
  | fall lookup alive =>
      obtain ⟨e, present, kept⟩ := marked.entrant lookup
      rw [← List.append_assoc]
      refine marked.set ?_ ?_
      · intro e' present'
        obtain rfl : e = e' := Option.some.inj (present.symm.trans present')
        exact kept.fallen alive kept.id rfl
      · intro other e' s' elsewhere present' kept'
        refine kept'.other (.inl fun same => ?_)
        exact elsewhere (entered.place_of_id present' present (same.symm.trans kept.id))

/-- The ruling on a tick keeps the account of falls. -/
theorem ofContacts_marked (entered : scene.roster.Entered) (log : List DamageEvent)
    (current : List FighterState) {next : List FighterState} (contacts : List Contact)
    (marked : scene.roster.Each (FighterState.Marked log) next) :
    scene.roster.Each (FighterState.Marked (log ++ (ofContacts scene current next contacts).damage))
      (ofContacts scene current next contacts).states := by
  refine (ofContacts_reaches scene current next contacts).invariant
    (P := fun r => scene.roster.Each (FighterState.Marked (log ++ r.damage)) r.states) ?_ ?_
  · intro a b change kept
    exact change.marked entered log kept
  · simpa [start] using marked

end Ruling

end RobotCombat
