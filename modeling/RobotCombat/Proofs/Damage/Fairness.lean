/-
# RobotCombat.Proofs.Damage.Fairness — a contact favors neither fighter

Two fighters come out of a contact the same whichever of them stands first in the
roster. Each of them goes through its own list of deeds, which the snapshot of the tick
settles, and starting cooldowns makes no difference to the rest of the list. So what a
fighter takes is decided by how the other one stood when the tick began, with which
weapons, and by its own armor and hit points, and never by what it deals itself:

* `contact_favors_neither`: the order of the two does not matter, what one takes does not
  depend on what it deals, and two strikes that are both deadly destroy both.
-/
import RobotCombat.Proofs.Damage.Encounter

namespace RobotCombat

set_option autoImplicit false

section Congr

variable {timestamp : Float32} {e e' : Entrant} {s : FighterState}

/-- Of an entrant only its id and its stats are a matter of fate. -/
theorem endure_congr (id : e.id = e'.id) (stats : e.stats = e'.stats) (ds : List Deed) :
    endure timestamp e s ds = endure timestamp e' s ds := by
  induction ds generalizing s with
  | nil => rfl
  | cons d ds ih =>
      have effect : d.effect timestamp e s = d.effect timestamp e' s := by
        cases d <;> simp only [Deed.effect, id, stats]
      rw [endure, endure, effect, ih]

theorem maxHp_struck (s : FighterState) (amount : Float32) :
    (s.struck amount).maxHp = s.maxHp := by
  unfold FighterState.struck
  split <;> rfl

/-- Where hit points have a range all damage is scored. -/
theorem scored_of_range (range : 0 ≤ s.maxHp) (ds : List Deed) :
    (endure timestamp e s ds).unscorable = false := by
  induction ds generalizing s with
  | nil => rfl
  | cons d ds ih =>
      have first : (d.effect timestamp e s).unscorable = false ∧
          (d.effect timestamp e s).state.maxHp = s.maxHp := by
        cases d with
        | harm attacker raw cause =>
            simp only [Deed.effect, if_pos range]
            split
            · exact ⟨rfl, maxHp_struck s _⟩
            · exact ⟨rfl, rfl⟩
        | drop =>
            simp only [Deed.effect]
            split <;> exact ⟨rfl, rfl⟩
        | _ => exact ⟨rfl, rfl⟩
      exact Bool.or_eq_false_iff.mpr ⟨first.1, ih (first.2 ▸ range)⟩

/-- Starting cooldowns is all that triggers do. -/
theorem endure_triggers (timestamp : Float32) (e : Entrant) (s : FighterState)
    {triggers : List Deed} (started : ∀ d ∈ triggers, ∃ slot ms, d = .trigger slot ms) :
    (endure timestamp e s triggers).damage = [] ∧ (endure timestamp e s triggers).pushes = [] ∧
      (endure timestamp e s triggers).unscorable = false ∧
      (endure timestamp e s triggers).state.vitals = s.vitals := by
  induction triggers generalizing s with
  | nil => exact ⟨rfl, rfl, rfl, rfl⟩
  | cons t triggers ih =>
      obtain ⟨slot, ms, rfl⟩ := started t List.mem_cons_self
      exact ih (s.trigger slot ms) fun d member => started d (List.mem_cons_of_mem _ member)

end Congr

namespace Combat

/-! ## What a strike looks at -/

section Sight

variable {me me' them them' : FighterState}

theorem isReady_congr (cooldowns : me.cooldowns = me'.cooldowns) (slot : Nat) :
    me.isReady slot = me'.isReady slot := by
  unfold FighterState.isReady
  rw [cooldowns]

theorem blow_congr (cooldowns : me.cooldowns = me'.cooldowns) (speed : Float32)
    (weapons : List Mounted) :
    ∀ (slot : Nat) (b : Blow), blow me speed slot b weapons = blow me' speed slot b weapons := by
  induction weapons with
  | nil => exact fun _ _ => rfl
  | cons m weapons ih =>
      intro slot b
      rw [blow, blow, isReady_congr cooldowns, ih]

theorem kicks_congr {scene scene' : Scene} (force : scene.forcePerSpeed = scene'.forcePerSpeed)
    (cooldowns : me.cooldowns = me'.cooldowns) (position : me.position = me'.position)
    (position' : them.position = them'.position) (place : Nat) (weapons : List Mounted) :
    ∀ slot, kicks scene me them place slot weapons =
      kicks scene' me' them' place slot weapons := by
  have push : kick scene me them = kick scene' me' them' := by
    unfold kick
    rw [force, position, position']
  induction weapons with
  | nil => exact fun _ => rfl
  | cons m weapons ih =>
      intro slot
      rw [kicks, kicks, isReady_congr cooldowns, push, ih]

end Sight

/-! ## Two fighters -/

/-- A fighter in a contact: the entrant, its state when the tick began, and its state as
it moved. -/
structure Party where
  entrant : Entrant
  current : FighterState
  next : FighterState
  deriving DecidableEq, Repr

/-- The circumstances of a contact between two fighters. -/
structure Bout where
  arena : Arena
  timestamp : Float32
  forcePerSpeed : Float32
  phase : Phase
  speed : Float32
  deriving DecidableEq, Repr

namespace Bout

section Definitions

variable (m : Bout) (x y : Party)

/-- The scene with two fighters in order. -/
def scene : Scene := ⟨⟨[x.entrant, y.entrant]⟩, m.arena, m.timestamp, m.forcePerSpeed⟩

/-- The contact of the fighters in the first two places. -/
def contact : Contact := ⟨0, .body 1, m.phase, m.speed⟩

/-- The ruling on the contact of two fighters, the first one in place zero. -/
def ruling : Ruling :=
  resolve (m.scene x y) [x.current, y.current] [m.contact] (.start [x.next, y.next])

/-- Whether they strike each other. -/
def strikes : Bool := m.contact.isNew && x.current.isAlive && y.current.isAlive

/-- What a fighter takes from another one. -/
def toll : List Deed :=
  .touch
    :: (if m.strikes x y then
          dealt (m.scene x y) y.current x.current y.entrant x.entrant m.speed
        else [])
    ++ (if y.current.isAlive then ground y.entrant else [])

/-- The cooldowns that it starts itself. -/
def outlay : List Deed := if m.strikes x y then spent x.current x.entrant else []

/-- What becomes of a fighter in the contact with another one. -/
def fate : Fate := endure m.timestamp x.entrant x.next (m.toll x y ++ m.outlay x y)

/-- The damage of a strike at a fighter that gets through its armor. -/
def blowAt : Float32 :=
  armorReduced
    ((blow y.current m.speed 0 ⟨0, none⟩ y.entrant.loadout.weapons).raw
      + momentum m.speed y.entrant.stats x.entrant.stats)
    x.entrant.stats.damageReduction

end Definitions

variable {m : Bout} {x y : Party}

theorem started_of_outlay {d : Deed} (member : d ∈ m.outlay x y) :
    ∃ slot ms, d = .trigger slot ms := by
  unfold outlay spent at member
  split at member
  · obtain ⟨t, -, rfl⟩ := List.mem_map.mp member
    exact ⟨t.1, t.2, rfl⟩
  · cases member

theorem not_mem_toll_trigger {slot : Nat} {ms : Float32} : .trigger slot ms ∉ m.toll x y := by
  unfold toll dealt strikeHarm ground
  split <;> split <;> simp

/-- Cooldowns may start after all else. -/
theorem endure_outlay (timestamp : Float32) (e : Entrant) (s : FighterState)
    {struck worn : List Deed} (listed : m.toll x y = .touch :: struck ++ worn) :
    endure timestamp e s (.touch :: (m.outlay x y ++ struck) ++ worn) =
      endure timestamp e s (m.toll x y ++ m.outlay x y) := by
  have moved : ∀ s, endure timestamp e s (m.outlay x y ++ (struck ++ worn)) =
      endure timestamp e s ((struck ++ worn) ++ m.outlay x y) := by
    intro s
    refine endure_swap (fun d member => started_of_outlay member) ?_
    rintro d member slot ms rfl
    have taken : .trigger slot ms ∈ m.toll x y := by
      rw [listed]
      exact List.mem_cons_of_mem _ member
    exact not_mem_toll_trigger taken
  have reassociated : (Deed.touch :: (m.outlay x y ++ struck)) ++ worn =
      [.touch] ++ (m.outlay x y ++ (struck ++ worn)) := by simp
  rw [reassociated, endure_append, moved, ← endure_append, listed]
  simp

/-- The first fighter's encounter is its fate. -/
theorem endure_first :
    endure m.timestamp x.entrant x.next
        (encounter (m.scene x y) [x.current, y.current] 0 1 m.contact) =
      m.fate x y := by
  rw [fate, ← endure_outlay _ _ _ rfl]
  have here : (m.scene x y).living? [x.current, y.current] 0 =
      if x.current.isAlive then some (x.entrant, x.current) else none := rfl
  have there : (m.scene x y).living? [x.current, y.current] 1 =
      if y.current.isAlive then some (y.entrant, y.current) else none := rfl
  congr 1
  unfold encounter spends deals grinds outlay strikes
  rw [here, there]
  cases m.contact.isNew <;> cases x.current.isAlive <;> cases y.current.isAlive <;> rfl

/-- So is the second fighter's, in its own view. -/
theorem endure_second :
    endure m.timestamp x.entrant x.next
        (encounter (m.scene y x) [y.current, x.current] 1 0 m.contact) =
      m.fate x y := by
  rw [fate, ← endure_outlay _ _ _ rfl]
  have here : (m.scene y x).living? [y.current, x.current] 1 =
      if x.current.isAlive then some (x.entrant, x.current) else none := rfl
  have there : (m.scene y x).living? [y.current, x.current] 0 =
      if y.current.isAlive then some (y.entrant, y.current) else none := rfl
  have pushed : dealt (m.scene y x) y.current x.current y.entrant x.entrant m.speed =
      dealt (m.scene x y) y.current x.current y.entrant x.entrant m.speed := by
    have pushes : kicks (m.scene y x) y.current x.current 0 0 y.entrant.loadout.weapons =
        kicks (m.scene x y) y.current x.current 0 0 y.entrant.loadout.weapons := by
      apply kicks_congr <;> rfl
    unfold dealt
    rw [pushes]
  have speed : m.contact.speed = m.speed := rfl
  congr 1
  unfold encounter spends deals grinds outlay strikes
  rw [here, there, speed]
  cases m.contact.isNew <;> cases x.current.isAlive <;> cases y.current.isAlive <;>
    simp [pushed]

theorem full_start : (Ruling.start [x.next, y.next]).Full (m.scene x y) := rfl

theorem ruling_eq_perform :
    m.ruling x y =
      (deeds (m.scene x y) [x.current, y.current] m.contact).foldl (Ruling.perform (m.scene x y))
        (.start [x.next, y.next]) :=
  full_start.combat_eq [x.current, y.current] m.contact

theorem contact_joins (m : Bout) : m.contact.Joins 0 1 ∧ m.contact.Joins 1 0 :=
  ⟨.inl ⟨rfl, rfl⟩, .inr ⟨rfl, rfl⟩⟩

/-- The ruling on a contact is a matter of the two fates. -/
theorem ruling_holds (distinct : x.entrant.id ≠ y.entrant.id) :
    (m.ruling x y).Holds 0 x.entrant (m.fate x y) ∧
      (m.ruling x y).Holds 1 y.entrant (m.fate y x) := by
  have ids : ((m.scene x y).roster.entrants.map Entrant.id).Nodup := by
    simp [scene, distinct]
  have ready : (Ruling.start [x.next, y.next]).Ready (m.scene x y)
      (deeds (m.scene x y) [x.current, y.current] m.contact) := by
    refine ⟨full_start, ?_⟩
    rintro ⟨⟨place, d⟩, member, rfl⟩
    obtain ⟨other, -, fall⟩ := mem_deeds_iff.mp member
    exact absurd fall not_mem_encounter_drop
  have first : (Ruling.start [x.next, y.next]).Holds 0 x.entrant (.quiet x.next) := ⟨rfl, rfl, rfl⟩
  have second : (Ruling.start [x.next, y.next]).Holds 1 y.entrant (.quiet y.next) :=
    ⟨rfl, rfl, rfl⟩
  obtain ⟨joins, joined⟩ := m.contact_joins
  have first := first.performAll ids rfl _ ready
  have second := second.performAll ids rfl _ ready
  rw [Fate.quiet_followedBy, endure_deeds joins (by decide), ← ruling_eq_perform] at first
  rw [Fate.quiet_followedBy, endure_deeds joined (by decide), ← ruling_eq_perform] at second
  constructor
  · rw [← endure_first]
    exact first
  · rw [← endure_second]
    exact second

/-- Nothing goes without an answer in a contact unless it does for one of the two. -/
theorem unscorable_ruling_iff :
    (m.ruling x y).unscorable = true ↔
      (m.fate x y).unscorable = true ∨ (m.fate y x).unscorable = true := by
  obtain ⟨joins, joined⟩ := m.contact_joins
  have fresh : (Ruling.start [x.next, y.next]).unscorable ≠ true := nofun
  rw [ruling_eq_perform, Ruling.unscorable_performAll _ full_start, or_iff_right fresh,
    ← endure_first, ← endure_second, ← endure_deeds joins (by decide),
    ← endure_deeds joined (by decide)]
  constructor
  · rintro ⟨place, e, s, entered, lookup, unscored⟩
    match place with
    | 0 =>
        obtain rfl : x.entrant = e := Option.some.inj entered
        obtain rfl : x.next = s := Option.some.inj lookup
        exact .inl unscored
    | 1 =>
        obtain rfl : y.entrant = e := Option.some.inj entered
        obtain rfl : y.next = s := Option.some.inj lookup
        exact .inr unscored
    | _ + 2 => cases entered
  · rintro (first | second)
    · exact ⟨0, x.entrant, x.next, rfl, rfl, first⟩
    · exact ⟨1, y.entrant, y.next, rfl, rfl, second⟩

theorem states_ruling (distinct : x.entrant.id ≠ y.entrant.id) :
    (m.ruling x y).states = [(m.fate x y).state, (m.fate y x).state] := by
  obtain ⟨first, second⟩ := ruling_holds (m := m) distinct
  have two : (m.ruling x y).states.length = 2 := by
    rw [ruling_eq_perform]
    exact full_start.afterAll _
  apply List.ext_getElem?
  intro place
  match place with
  | 0 => exact first.state
  | 1 => exact second.state
  | place + 2 => simp [two]

/-! ## What a fighter takes -/

/-- What a fighter takes is decided by its toll; the cooldowns it starts are a matter of
its own. -/
theorem fate_eq_toll :
    (m.fate x y).damage = (endure m.timestamp x.entrant x.next (m.toll x y)).damage ∧
      (m.fate x y).pushes = (endure m.timestamp x.entrant x.next (m.toll x y)).pushes ∧
      (m.fate x y).unscorable =
        (endure m.timestamp x.entrant x.next (m.toll x y)).unscorable ∧
      (m.fate x y).state.vitals =
        (endure m.timestamp x.entrant x.next (m.toll x y)).state.vitals := by
  have started : ∀ d ∈ m.outlay x y, ∃ slot ms, d = .trigger slot ms :=
    fun _ member => started_of_outlay member
  obtain ⟨damage, pushes, unscorable, vitals⟩ := endure_triggers m.timestamp x.entrant
    (endure m.timestamp x.entrant x.next (m.toll x y)).state started
  rw [fate, endure_append]
  simp [Fate.followedBy, damage, pushes, unscorable, vitals]

end Bout

/-- Two fighters that the same contact hurts alike, whatever they deal themselves. -/
structure Party.TakesLike (x x' : Party) : Prop where
  id : x'.entrant.id = x.entrant.id
  stats : x'.entrant.stats = x.entrant.stats
  alive : x'.current.isAlive = x.current.isAlive
  position : x'.current.position = x.current.position
  next : x'.next = x.next

/-- Two fighters that deal the same damage, whatever they take themselves. -/
structure Party.DealsLike (y y' : Party) : Prop where
  id : y'.entrant.id = y.entrant.id
  loadout : y'.entrant.loadout = y.entrant.loadout
  weight : y'.entrant.stats.weight = y.entrant.stats.weight
  alive : y'.current.isAlive = y.current.isAlive
  position : y'.current.position = y.current.position
  cooldowns : y'.current.cooldowns = y.current.cooldowns

namespace Bout

variable {m : Bout} {x y x' y' : Party}

theorem toll_congr (takes : x.TakesLike x') (deals : y.DealsLike y') :
    m.toll x' y' = m.toll x y := by
  have pushes : kicks (m.scene x' y') y'.current x'.current 0 0 y'.entrant.loadout.weapons =
      kicks (m.scene x y) y.current x.current 0 0 y.entrant.loadout.weapons := by
    rw [deals.loadout]
    exact kicks_congr (by rfl) deals.cooldowns deals.position takes.position 0 _ 0
  have harm : strikeHarm y'.current y'.entrant x'.entrant m.speed =
      strikeHarm y.current y.entrant x.entrant m.speed := by
    unfold strikeHarm momentum
    rw [deals.loadout, deals.id, deals.weight, takes.stats, blow_congr deals.cooldowns]
  unfold toll strikes dealt ground
  rw [takes.alive, deals.alive, pushes, harm, deals.loadout, deals.id]

/-- What a fighter takes does not depend on what it deals. -/
theorem fate_congr (takes : x.TakesLike x') (deals : y.DealsLike y') :
    (m.fate x' y').damage = (m.fate x y).damage ∧ (m.fate x' y').pushes = (m.fate x y).pushes ∧
      (m.fate x' y').state.vitals = (m.fate x y).state.vitals := by
  obtain ⟨damage, pushes, -, vitals⟩ := fate_eq_toll (m := m) (x := x) (y := y)
  obtain ⟨damage', pushes', -, vitals'⟩ := fate_eq_toll (m := m) (x := x') (y := y')
  have same : endure m.timestamp x'.entrant x'.next (m.toll x' y') =
      endure m.timestamp x.entrant x.next (m.toll x y) := by
    rw [toll_congr takes deals, takes.next, endure_congr takes.id takes.stats]
  rw [damage, damage', pushes, pushes', vitals, vitals', same]
  exact ⟨rfl, rfl, rfl⟩

/-- The first damage that is due is that of the strike. -/
theorem due_of_strike (strikes : m.strikes x y = true) (through : 0 < m.blowAt x y) :
    ∃ cause later, (m.toll x y).filterMap (Deed.due m.timestamp x.entrant) =
      ⟨some y.entrant.id, x.entrant.id, m.blowAt x y, cause, m.timestamp⟩ :: later := by
  have pushed : ∀ kicks : List (Nat × Vector2),
      (kicks.map fun k => Deed.push k.2).filterMap (Deed.due m.timestamp x.entrant) = [] := by
    intro kicks
    simp [List.filterMap_map, Function.comp_def, Deed.due]
  have harm : ∃ cause,
      (strikeHarm y.current y.entrant x.entrant m.speed).due m.timestamp x.entrant =
        some ⟨some y.entrant.id, x.entrant.id, m.blowAt x y, cause, m.timestamp⟩ :=
    ⟨_, if_pos through⟩
  obtain ⟨cause, harm⟩ := harm
  have touched : Deed.touch.due m.timestamp x.entrant = none := rfl
  refine ⟨cause, (if y.current.isAlive then ground y.entrant else []).filterMap
    (Deed.due m.timestamp x.entrant), ?_⟩
  unfold toll dealt
  rw [if_pos strikes]
  simp only [List.filterMap_cons, List.filterMap_append, List.cons_append, touched, pushed,
    harm, List.filterMap_nil, List.nil_append]

/-- A strike that gets through is the first thing a living fighter takes, and destroys it
if it leaves nothing, whatever became of the one who strikes. -/
theorem fate_of_strike (strikes : m.strikes x y = true) (alive : x.next.isAlive = true)
    (range : 0 ≤ x.next.maxHp) (through : 0 < m.blowAt x y) :
    (∃ cause, (m.fate x y).damage.head? =
        some ⟨some y.entrant.id, x.entrant.id, m.blowAt x y, cause, m.timestamp⟩) ∧
      (x.next.remaining (m.blowAt x y) ≤ 0 → (m.fate x y).state.isAlive = false) := by
  have stays : ∀ d ∈ m.toll x y, d ≠ .drop := by
    unfold toll dealt strikeHarm ground
    split <;> split <;> simp <;> grind
  obtain ⟨taken, -, -, state⟩ := fate_eq_toll (m := m) (x := x) (y := y)
  have scored : (endure m.timestamp x.entrant x.next (m.toll x y)).unscorable = false :=
    scored_of_range range _
  obtain ⟨damage, vitals⟩ := endure_damage stays scored
  obtain ⟨cause, later, due⟩ := due_of_strike strikes through
  rw [due, FighterState.bears, if_pos alive] at damage
  constructor
  · exact ⟨cause, by rw [taken, damage]; rfl⟩
  · intro deadly
    have destroyed : x.next.struck (m.blowAt x y) = x.next.destroy := by
      unfold FighterState.struck
      rw [if_pos deadly]
    have none : (x.next.struck (m.blowAt x y)).bears later = [] := by
      rw [destroyed]
      exact FighterState.bears_of_destroyed rfl later
    rw [none] at damage
    rw [FighterState.isAlive_of_vitals (state.trans vitals), damage]
    show (x.next.struck (m.blowAt x y)).isAlive = false
    rw [destroyed]
    rfl

/-- A contact favors neither fighter. With the two of them in the other order it comes to
the same states, the same damage against each and the same pushes on each. What one takes
does not depend on what it deals. If the contact is new and both were alive, a strike that
gets through is recorded whatever became of the one who strikes, and two deadly strikes
destroy both. -/
theorem contact_favors_neither (m : Bout) (x y : Party) (distinct : x.entrant.id ≠ y.entrant.id) :
    let first := m.ruling x y
    let second := m.ruling y x
    (second.states = first.states.reverse ∧
      x.entrant.suffered second.damage = x.entrant.suffered first.damage ∧
      y.entrant.suffered second.damage = y.entrant.suffered first.damage ∧
      entriesAt 1 second.pushes = entriesAt 0 first.pushes ∧
      entriesAt 0 second.pushes = entriesAt 1 first.pushes ∧
      second.unscorable = first.unscorable) ∧
    (∀ x' y' : Party, x.TakesLike x' → y.DealsLike y' →
      x.entrant.suffered (m.ruling x' y').damage = x.entrant.suffered first.damage ∧
      entriesAt 0 (m.ruling x' y').pushes = entriesAt 0 first.pushes ∧
      (m.ruling x' y').states[0]?.map FighterState.vitals =
        first.states[0]?.map FighterState.vitals) ∧
    (m.phase = .begun → x.current.isAlive = true → y.current.isAlive = true →
      x.next.isAlive = true → 0 ≤ x.next.maxHp → 0 < m.blowAt x y →
      (∃ cause, (x.entrant.suffered first.damage).head? =
        some ⟨some y.entrant.id, x.entrant.id, m.blowAt x y, cause, m.timestamp⟩) ∧
      (y.next.isAlive = true → 0 ≤ y.next.maxHp → 0 < m.blowAt y x →
        x.next.remaining (m.blowAt x y) ≤ 0 → y.next.remaining (m.blowAt y x) ≤ 0 →
          first.states.map (·.isAlive) = [false, false])) := by
  intro first second
  obtain ⟨xFirst, yFirst⟩ := ruling_holds (m := m) distinct
  obtain ⟨ySecond, xSecond⟩ := ruling_holds (m := m) (Ne.symm distinct)
  have states : first.states = [(m.fate x y).state, (m.fate y x).state] := states_ruling distinct
  refine ⟨⟨?_, ?_, ?_, ?_, ?_, ?_⟩, ?_, ?_⟩
  · rw [states]
    exact states_ruling (Ne.symm distinct)
  · exact xSecond.damage.trans xFirst.damage.symm
  · exact ySecond.damage.trans yFirst.damage.symm
  · exact xSecond.pushes.trans xFirst.pushes.symm
  · exact ySecond.pushes.trans yFirst.pushes.symm
  · exact Bool.eq_iff_iff.mpr
      (unscorable_ruling_iff.trans (or_comm.trans unscorable_ruling_iff.symm))
  · intro x' y' takes deals
    obtain ⟨damage, pushes, vitals⟩ := fate_congr (m := m) takes deals
    have distinct' : x'.entrant.id ≠ y'.entrant.id := by rwa [takes.id, deals.id]
    have xOther := (ruling_holds (m := m) distinct').1
    have same : x'.entrant.suffered = x.entrant.suffered := by
      unfold Entrant.suffered
      rw [takes.id]
    have taken := xOther.damage
    rw [same] at taken
    refine ⟨?_, ?_, ?_⟩
    · exact (taken.trans damage).trans xFirst.damage.symm
    · rw [xOther.pushes, pushes, xFirst.pushes]
    · rw [xOther.state, xFirst.state, Option.map_some, vitals]
      rfl
  · intro begun xAlive yAlive alive range through
    have strikes : m.strikes x y = true := by
      simp [Bout.strikes, Bout.contact, Contact.isNew, begun, xAlive, yAlive]
    have strikes' : m.strikes y x = true := by
      simp [Bout.strikes, Bout.contact, Contact.isNew, begun, xAlive, yAlive]
    obtain ⟨⟨cause, recorded⟩, deadly⟩ := fate_of_strike strikes alive range through
    refine ⟨⟨cause, by rw [xFirst.damage, recorded]⟩, ?_⟩
    intro alive' range' through' hit hit'
    have deadly' := (fate_of_strike strikes' alive' range' through').2
    rw [states]
    simp [deadly hit, deadly' hit']

/-- A fighter of the stock catalog that is down to its last hit point. -/
def worn (b : Build) : Party :=
  let e := Entrant.of b .zero .stock
  ⟨e, { e.spawnState with hp := 1 }, { e.spawnState with hp := 1 }⟩

/-- A light and a heavy fighter run into each other and neither survives, in whichever
order they stand. -/
theorem worn_destroy_each_other :
    let m : Bout := ⟨.plain, 100, 5, .begun, 6⟩
    (worn Roster.sawyer).entrant.id ≠ (worn Roster.smith).entrant.id ∧
      (m.ruling (worn Roster.sawyer) (worn Roster.smith)).states.map (·.isAlive) =
        [false, false] ∧
      (m.ruling (worn Roster.smith) (worn Roster.sawyer)).states.map (·.isAlive) =
        [false, false] := by
  intro m
  have distinct : (worn Roster.sawyer).entrant.id ≠ (worn Roster.smith).entrant.id := by decide
  obtain ⟨⟨order, -⟩, -, deadly⟩ :=
    contact_favors_neither m (worn Roster.sawyer) (worn Roster.smith) distinct
  have both := (deadly rfl rfl rfl rfl (by decide) (by decide +kernel)).2 rfl (by decide)
    (by decide +kernel) (by decide +kernel) (by decide +kernel)
  refine ⟨distinct, both, ?_⟩
  rw [order, List.map_reverse, both]
  rfl

end Bout

end Combat

end RobotCombat
