/-
# RobotCombat.Proofs.Damage.Clash — a contact of two fighters, by the weapon table

Any contact of two fighters, at whatever places of whatever roster, comes to the fate of each
of them in a `Bout` (`resolveContact_eq`): nobody else is touched, and the log grows by the
two strikes and then by the spinners. What these are is spelled out from the weapon table,
the momentum and the armor:

* `contact_follows_table`: the log, the cooldowns and the pushes of one contact.
-/
import RobotCombat.Proofs.Damage.Fairness
import RobotCombat.Proofs.Damage.WeaponTable

namespace RobotCombat

set_option autoImplicit false

open Number

/-! ## Deeds without a fall look at vitals alone -/

/-- The push that a deed gives. -/
def Deed.force? : Deed → Option Vector2
  | .push force => some force
  | _ => none

section Endure

variable {timestamp : Float32} {e : Entrant} {s s' : FighterState}

theorem pushes_effect (d : Deed) : (d.effect timestamp e s).pushes = d.force?.toList := by
  cases d with
  | harm attacker raw cause =>
      simp only [Deed.effect]
      split
      · split <;> rfl
      · rfl
  | drop =>
      simp only [Deed.effect]
      split <;> rfl
  | _ => rfl

/-- A fighter is pushed as the deeds say, dead or alive. -/
theorem pushes_endure (ds : List Deed) :
    (endure timestamp e s ds).pushes = ds.filterMap Deed.force? := by
  induction ds generalizing s with
  | nil => rfl
  | cons d ds ih =>
      have first : (d.effect timestamp e s).pushes = d.force?.toList := pushes_effect d
      rw [filterMap_cons_eq_append, ← first, ← ih (s := (d.effect timestamp e s).state)]
      rfl

/-- Deeds without harm leave vitals alone. -/
theorem vitals_effect {d : Deed} (stays : d ≠ .drop)
    (harmless : ∀ attacker raw cause, d ≠ .harm attacker raw cause) :
    (d.effect timestamp e s).state.vitals = s.vitals := by
  cases d with
  | drop => exact absurd rfl stays
  | harm attacker raw cause => exact absurd rfl (harmless attacker raw cause)
  | _ => rfl

theorem effect_congr_vitals (timestamp : Float32) (e : Entrant) (same : s.vitals = s'.vitals)
    {d : Deed} (stays : d ≠ .drop) :
    (d.effect timestamp e s).damage = (d.effect timestamp e s').damage ∧
      (d.effect timestamp e s).unscorable = (d.effect timestamp e s').unscorable ∧
      (d.effect timestamp e s).state.vitals = (d.effect timestamp e s').state.vitals := by
  have alive := FighterState.isAlive_of_vitals same
  have maxHp : s.maxHp = s'.maxHp := congrArg (fun v : Float32 × Float32 × Bool => v.2.1) same
  cases d with
  | drop => exact absurd rfl stays
  | harm attacker raw cause =>
      simp only [Deed.effect, alive, maxHp]
      split
      · split
        · simp [Fate.quiet, FighterState.vitals_struck same]
        · exact ⟨rfl, rfl, same⟩
      · exact ⟨rfl, rfl, same⟩
  | _ =>
      rw [vitals_effect stays (by simp), vitals_effect stays (by simp)]
      exact ⟨rfl, rfl, same⟩

/-- Fighters with the same vitals take the same of deeds without a fall. -/
theorem endure_congr_vitals (timestamp : Float32) (e : Entrant) (same : s.vitals = s'.vitals)
    {ds : List Deed} (stays : ∀ d ∈ ds, d ≠ .drop) :
    (endure timestamp e s ds).damage = (endure timestamp e s' ds).damage ∧
      (endure timestamp e s ds).unscorable = (endure timestamp e s' ds).unscorable ∧
      (endure timestamp e s ds).state.vitals = (endure timestamp e s' ds).state.vitals := by
  induction ds generalizing s s' with
  | nil => exact ⟨rfl, rfl, same⟩
  | cons d ds ih =>
      obtain ⟨damage, unscorable, vitals⟩ :=
        effect_congr_vitals timestamp e same (stays d List.mem_cons_self)
      obtain ⟨damage', unscorable', vitals'⟩ :=
        ih vitals fun d' member => stays d' (List.mem_cons_of_mem d member)
      exact ⟨congrArg₂ (· ++ ·) damage damage', congrArg₂ (· || ·) unscorable unscorable', vitals'⟩

/-- Without a range of hit points nothing is scored, and what is borne is left open. -/
theorem effect_out_of_range {d : Deed} (stays : d ≠ .drop) (range : ¬ 0 ≤ s.maxHp) :
    (d.effect timestamp e s).state.vitals = s.vitals ∧
      ((d.effect timestamp e s).unscorable = true ↔
        s.bears (d.due timestamp e).toList ≠ []) := by
  cases d with
  | drop => exact absurd rfl stays
  | harm attacker raw cause =>
      by_cases alive : s.isAlive = true <;>
        by_cases through : 0 < armorReduced raw e.stats.damageReduction <;>
        simp [Deed.effect, Deed.due, Fate.quiet, FighterState.bears, alive, through, range]
  | _ => simp [Deed.effect, Deed.due, Fate.quiet, FighterState.bears] <;> rfl

/-- Damage goes without an answer exactly if hit points have no range and some is borne. -/
theorem unscorable_endure_iff {ds : List Deed} (stays : ∀ d ∈ ds, d ≠ .drop) :
    (endure timestamp e s ds).unscorable = true ↔
      ¬ 0 ≤ s.maxHp ∧ s.bears (ds.filterMap (Deed.due timestamp e)) ≠ [] := by
  by_cases range : 0 ≤ s.maxHp
  · simp [scored_of_range range ds, range]
  · induction ds with
    | nil => simp [endure, Fate.quiet, FighterState.bears]
    | cons d ds ih =>
        have stays' : ∀ d' ∈ ds, d' ≠ .drop := fun d' member =>
          stays d' (List.mem_cons_of_mem d member)
        obtain ⟨vitals, first⟩ :=
          effect_out_of_range (stays d List.mem_cons_self) range
        -- nothing is scored, so the rest meets the same vitals
        have rest := (endure_congr_vitals timestamp e vitals stays').2.1
        show (_ || _) = true ↔ _
        rw [Bool.or_eq_true_iff, first, rest, ih stays', filterMap_cons_eq_append]
        cases due : d.due timestamp e with
        | none => simp [FighterState.bears]
        | some event =>
            by_cases alive : s.isAlive = true
            · simp [FighterState.bears, alive, range]
            · simp [FighterState.bears_of_destroyed (by simpa using alive : s.isAlive = false)]

end Endure

/-! ## Two places of a ruling -/

namespace Ruling

variable {scene : Scene} {r : Ruling} {a b : Nat} {s t : FighterState}
  {damage : List DamageEvent} {pushes : List (Nat × Vector2)} {unscorable : Bool}

/-- A ruling with new states at two places and more on record. -/
def settled (r : Ruling) (a b : Nat) (s t : FighterState) (damage : List DamageEvent)
    (pushes : List (Nat × Vector2)) (unscorable : Bool) : Ruling :=
  { states := (r.states.set a s).set b t
    damage := r.damage ++ damage
    pushes := r.pushes ++ pushes
    unscorable := r.unscorable || unscorable }

theorem settled_comm (apart : a ≠ b) :
    r.settled a b s t damage pushes unscorable = r.settled b a t s damage pushes unscorable := by
  unfold settled
  rw [List.set_comm _ _ apart]

theorem settled_self (first : r.states[a]? = some s) (second : r.states[b]? = some t) :
    r.settled a b s t [] [] false = r := by
  simp [settled, set_of_lookup first, set_of_lookup second]

/-- Deeds at the first of two places. -/
theorem performAll_first {e : Entrant} (entered : scene.roster.get? a = some e)
    (inside : a < r.states.length) (apart : a ≠ b) (ds : List Deed) (s t : FighterState)
    (damage : List DamageEvent) (pushes : List (Nat × Vector2)) (unscorable : Bool) :
    (ds.map (a, ·)).foldl (perform scene) (r.settled a b s t damage pushes unscorable) =
      r.settled a b (endure scene.timestamp e s ds).state t
        (damage ++ (endure scene.timestamp e s ds).damage)
        (pushes ++ (endure scene.timestamp e s ds).pushes.map (a, ·))
        (unscorable || (endure scene.timestamp e s ds).unscorable) := by
  induction ds generalizing s damage pushes unscorable with
  | nil => simp [endure, Fate.quiet]
  | cons d ds ih =>
      have lookup : (r.settled a b s t damage pushes unscorable).states[a]? = some s := by
        show ((r.states.set a s).set b t)[a]? = some s
        rw [List.getElem?_set_ne (Ne.symm apart), List.getElem?_set_self inside]
      have replaced : ((r.states.set a s).set b t).set a (d.effect scene.timestamp e s).state =
          (r.states.set a (d.effect scene.timestamp e s).state).set b t := by
        rw [List.set_comm _ _ (Ne.symm apart), List.set_set]
      have stepped : (r.settled a b s t damage pushes unscorable).perform scene (a, d) =
          r.settled a b (d.effect scene.timestamp e s).state t
            (damage ++ (d.effect scene.timestamp e s).damage)
            (pushes ++ (d.effect scene.timestamp e s).pushes.map (a, ·))
            (unscorable || (d.effect scene.timestamp e s).unscorable) := by
        rw [perform_of_lookup entered lookup]
        simp [settled, replaced, Bool.or_assoc]
      rw [List.map_cons, List.foldl_cons, stepped, ih]
      simp [endure, Fate.followedBy, Bool.or_assoc]

/-- Deeds at the second of two places. -/
theorem performAll_second {e : Entrant} (entered : scene.roster.get? b = some e)
    (inside : b < r.states.length) (apart : a ≠ b) (ds : List Deed) (s t : FighterState)
    (damage : List DamageEvent) (pushes : List (Nat × Vector2)) (unscorable : Bool) :
    (ds.map (b, ·)).foldl (perform scene) (r.settled a b s t damage pushes unscorable) =
      r.settled a b s (endure scene.timestamp e t ds).state
        (damage ++ (endure scene.timestamp e t ds).damage)
        (pushes ++ (endure scene.timestamp e t ds).pushes.map (b, ·))
        (unscorable || (endure scene.timestamp e t ds).unscorable) := by
  rw [settled_comm apart, performAll_first entered inside (Ne.symm apart) ds t s,
    settled_comm (Ne.symm apart)]

end Ruling

namespace Combat

variable {scene : Scene} {current : List FighterState} {r : Ruling} {a b : Nat} {c : Contact}
  {x y : Party}

/-- A fighter stands at a place when a contact is dealt with. -/
structure Party.Stands (x : Party) (scene : Scene) (current : List FighterState) (r : Ruling)
    (place : Nat) : Prop where
  entered : scene.roster.get? place = some x.entrant
  began : current[place]? = some x.current
  moved : r.states[place]? = some x.next

theorem Party.Stands.inside (stands : x.Stands scene current r a) : a < r.states.length :=
  (List.getElem?_eq_some_iff.mp stands.moved).1

theorem Party.Stands.living? (stands : x.Stands scene current r a) :
    scene.living? current a =
      if x.current.isAlive then some (x.entrant, x.current) else none := by
  unfold Scene.living?
  rw [stands.entered, stands.began]

/-- What the spinners of a fighter do in a tick of contact. -/
def Party.grinding (x : Party) : List Deed := if x.current.isAlive then ground x.entrant else []

namespace Bout

/-- The circumstances of a contact of two fighters in a scene. -/
def of (scene : Scene) (c : Contact) : Bout :=
  ⟨scene.arena, scene.timestamp, scene.forcePerSpeed, c.phase, c.speed⟩

section Lists

variable (m : Bout) (x y : Party)

/-- What a fighter takes of a strike of another one. -/
def struck : List Deed :=
  if m.strikes x y then
    dealt (m.scene x y) y.current x.current y.entrant x.entrant m.speed
  else []

theorem toll_eq : m.toll x y = .touch :: m.struck x y ++ y.grinding := rfl

theorem strikes_comm : m.strikes x y = m.strikes y x := by
  unfold strikes
  cases m.contact.isNew <;> cases x.current.isAlive <;> cases y.current.isAlive <;> rfl

end Lists

theorem dealt_of (me them : FighterState) (e opponent : Entrant) (speed : Float32) :
    dealt ((Bout.of scene c).scene x y) me them e opponent speed =
      dealt scene me them e opponent speed := by
  have pushes : kicks ((Bout.of scene c).scene x y) me them 0 0 e.loadout.weapons =
      kicks scene me them 0 0 e.loadout.weapons := by
    apply kicks_congr <;> rfl
  unfold dealt
  rw [pushes]

/-- The deeds of a contact of two fighters. -/
theorem deeds_eq (first : x.Stands scene current r a) (second : y.Stands scene current r b)
    (body : c.body = a) (other : c.other = .body b) :
    deeds scene current c =
      [.touch].map (a, ·) ++ [.touch].map (b, ·)
        ++ ((Bout.of scene c).outlay x y).map (a, ·) ++ ((Bout.of scene c).struck y x).map (b, ·)
        ++ ((Bout.of scene c).outlay y x).map (b, ·) ++ ((Bout.of scene c).struck x y).map (a, ·)
        ++ x.grinding.map (b, ·) ++ y.grinding.map (a, ·) := by
  have fresh : (Bout.of scene c).contact.isNew = c.isNew := rfl
  have speed : (Bout.of scene c).speed = c.speed := rfl
  unfold deeds strikeDeeds grindDeeds spends deals grinds outlay struck Party.grinding strikes
  rw [body, other, first.living?, fresh, speed, dealt_of, dealt_of]
  dsimp only
  rw [second.living?]
  cases c.isNew <;> cases x.current.isAlive <;> cases y.current.isAlive <;> simp

/-! ### The two fates, deed by deed -/

variable {m : Bout}

theorem not_mem_struck_drop : .drop ∉ m.struck x y := by
  unfold struck dealt strikeHarm
  split <;> simp

theorem not_mem_grinding_drop : .drop ∉ x.grinding := by
  unfold Party.grinding ground
  split <;> simp

theorem struck_stays (m : Bout) (x y : Party) : ∀ d ∈ m.struck x y, d ≠ .drop := by
  rintro d member rfl
  exact not_mem_struck_drop member

theorem grinding_stays (x : Party) : ∀ d ∈ x.grinding, d ≠ .drop := by
  rintro d member rfl
  exact not_mem_grinding_drop member

/-- A fighter that pays before it is struck meets its fate. -/
theorem fate_of_paid_first :
    endure m.timestamp x.entrant x.next
        (([.touch] ++ m.outlay x y ++ m.struck x y) ++ y.grinding) = m.fate x y := by
  rw [fate, ← endure_outlay m.timestamp x.entrant x.next (toll_eq m x y)]
  rfl

/-- So does one that is struck before it pays. -/
theorem fate_of_struck_first :
    endure m.timestamp x.entrant x.next
        (([.touch] ++ m.struck x y ++ m.outlay x y) ++ y.grinding) = m.fate x y := by
  have swapped : ∀ s, endure m.timestamp x.entrant s (m.outlay x y ++ m.struck x y) =
      endure m.timestamp x.entrant s (m.struck x y ++ m.outlay x y) := by
    intro s
    refine endure_swap (fun d member => started_of_outlay member) ?_
    rintro d member slot ms rfl
    have taken : .trigger slot ms ∈ m.toll x y := by
      rw [toll_eq]
      exact List.mem_cons_of_mem _ (List.mem_append_left _ member)
    exact not_mem_toll_trigger taken
  rw [← fate_of_paid_first, endure_append, endure_append _ y.grinding, List.append_assoc,
    List.append_assoc, endure_append [.touch], endure_append [.touch], swapped]

/-- The log of a strike that a fighter takes. -/
def strikeTaken (m : Bout) (x y : Party) : List DamageEvent :=
  (endure m.timestamp x.entrant x.next (m.struck x y)).damage

/-- The log of the spinners that a fighter takes, after the strike. -/
def grindTaken (m : Bout) (x y : Party) : List DamageEvent :=
  (endure m.timestamp x.entrant (endure m.timestamp x.entrant x.next (m.struck x y)).state
    y.grinding).damage

/-- Only vitals count for what a fighter takes. -/
theorem taken_of_vitals {s s' : FighterState} (before : s.vitals = x.next.vitals)
    (between : s'.vitals = (endure m.timestamp x.entrant s (m.struck x y)).state.vitals) :
    (endure m.timestamp x.entrant s (m.struck x y)).damage = m.strikeTaken x y ∧
      (endure m.timestamp x.entrant s' y.grinding).damage = m.grindTaken x y := by
  obtain ⟨damage, -, vitals⟩ :=
    endure_congr_vitals m.timestamp x.entrant before (struck_stays m x y)
  exact ⟨damage, (endure_congr_vitals m.timestamp x.entrant (between.trans vitals)
    (grinding_stays y)).1⟩

theorem touch_quiet (timestamp : Float32) (e : Entrant) (s : FighterState) :
    endure timestamp e s [.touch] =
      .quiet { s with status := { s.status with inContact := true } } := rfl

theorem outlay_quiet (m : Bout) (x y : Party) (s : FighterState) :
    (endure m.timestamp x.entrant s (m.outlay x y)).damage = [] ∧
      (endure m.timestamp x.entrant s (m.outlay x y)).pushes = [] ∧
      (endure m.timestamp x.entrant s (m.outlay x y)).unscorable = false ∧
      (endure m.timestamp x.entrant s (m.outlay x y)).state.vitals = s.vitals :=
  endure_triggers m.timestamp x.entrant s fun _ member => started_of_outlay member

theorem grinding_unpushed (x : Party) : x.grinding.filterMap Deed.force? = [] := by
  unfold Party.grinding ground
  split <;> simp [List.filterMap_map, Function.comp_def, Deed.force?]

/-- A contact of two fighters comes to the fates of the two. On record are the strikes, the
one of the first fighter first, and then the spinners. -/
theorem resolveContact_eq (full : r.Full scene) (first : x.Stands scene current r a)
    (second : y.Stands scene current r b) (apart : a ≠ b) (body : c.body = a)
    (other : c.other = .body b) :
    let m := Bout.of scene c
    resolveContact scene current r c =
      r.settled a b (m.fate x y).state (m.fate y x).state
        (m.strikeTaken y x ++ m.strikeTaken x y ++ m.grindTaken y x ++ m.grindTaken x y)
        ((m.fate y x).pushes.map (b, ·) ++ (m.fate x y).pushes.map (a, ·))
        ((m.fate x y).unscorable || (m.fate y x).unscorable) := by
  intro m
  have named : Bout.of scene c = m := rfl
  have timestamp : scene.timestamp = m.timestamp := rfl
  have atFirst := Ruling.performAll_first (r := r) first.entered first.inside apart
  have atSecond := Ruling.performAll_second (r := r) second.entered second.inside apart
  rw [full.combat_eq, deeds_eq first second body other]
  simp only [List.foldl_append]
  nth_rewrite 1 [← Ruling.settled_self (r := r) first.moved second.moved]
  rw [atFirst, atSecond, atFirst, atSecond, atSecond, atFirst, atSecond, atFirst, named, timestamp]
  obtain ⟨touched, same, mark⟩ : ∃ s, s.vitals = x.next.vitals ∧
      endure m.timestamp x.entrant x.next [.touch] = .quiet s := ⟨_, rfl, touch_quiet _ _ _⟩
  obtain ⟨touched', same', mark'⟩ : ∃ s, s.vitals = y.next.vitals ∧
      endure m.timestamp y.entrant y.next [.touch] = .quiet s := ⟨_, rfl, touch_quiet _ _ _⟩
  obtain ⟨free, calm, scored, paid⟩ := outlay_quiet m x y touched
  obtain ⟨free', calm', scored', paid'⟩ :=
    outlay_quiet m y x (endure m.timestamp y.entrant touched' (m.struck y x)).state
  obtain ⟨hit, spun⟩ := taken_of_vitals (m := m) (y := y) (paid.trans same) rfl
  obtain ⟨hit', spun'⟩ := taken_of_vitals same' paid'
  rw [← fate_of_paid_first (m := m) (x := x) (y := y),
    ← fate_of_struck_first (m := m) (x := y) (y := x)]
  simp only [endure_append, mark, mark', Fate.quiet_followedBy]
  simp only [Fate.quiet, Fate.followedBy, free, calm, scored, free', calm', scored', hit, spun,
    hit', spun', pushes_endure, grinding_unpushed]
  simp [Ruling.settled, Bool.or_assoc, Bool.or_comm, Bool.or_left_comm]

end Bout

/-! ## What a contact comes to, spelled out -/

namespace Party

section Definitions

variable (x y : Party) (speed : Float32)

/-- What the weapons of a fighter add to a strike, in slot order. -/
def contributions : List Contribution :=
  Combat.contributions x.current speed 0 x.entrant.loadout.weapons

/-- The damage of a strike at another fighter before armor. -/
def rawStrike : Float32 :=
  (x.contributions speed).foldl (fun sum c => sum + c.amount) 0
    + speed * (x.entrant.stats.weight / y.entrant.stats.weight) * 0.5

/-- The first weapon that adds to a strike, or the collision. -/
def strikeCause : Cause :=
  ((x.contributions speed).head?.map fun c => .weapon c.kind).getD .collision

/-- The flippers that are ready. -/
def readyFlippers : Nat := Combat.readyFlippers x.current 0 x.entrant.loadout.weapons

/-- The contributions are those of the table above zero, in slot order. -/
structure FollowsTable : Prop where
  ordered : (x.contributions speed).Pairwise (·.slot < ·.slot)
  tabled : ∀ c, c ∈ x.contributions speed ↔
    0 < c.amount ∧ ∃ m, x.entrant.loadout.weapons[c.slot]? = some m ∧ c.kind = m.weapon.kind ∧
      m.weapon.Adds speed (x.current.isReady c.slot) c.amount

end Definitions

variable {x y : Party} {speed : Float32}

theorem followsTable (x : Party) (speed : Float32) : x.FollowsTable speed where
  ordered := contributions_ordered 0
  tabled _ := mem_contributions_iff

theorem strikeHarm_eq (x y : Party) (speed : Float32) :
    strikeHarm x.current x.entrant y.entrant speed =
      .harm (some x.entrant.id) (x.rawStrike y speed) (x.strikeCause speed) := by
  unfold strikeHarm
  rw [blow_eq]
  rfl

end Party

namespace Bout

section Definitions

variable (m : Bout) (x y : Party)

/-- The log of a strike of one fighter at another. -/
def strikeLog : List DamageEvent :=
  let raw := x.rawStrike y m.speed
  let applied := armorReduced raw y.entrant.stats.damageReduction
  if m.strikes x y = true ∧ 0 < raw ∧ 0 < applied ∧ y.next.isAlive = true then
    [⟨some x.entrant.id, y.entrant.id, applied, x.strikeCause m.speed, m.timestamp⟩]
  else []

/-- The log of the spinners of one fighter that then grind the other. -/
def grindLog : List DamageEvent :=
  if x.current.isAlive then
    (y.next.after (m.strikeLog x y)).bears (x.entrant.grindsDue y.entrant m.timestamp)
  else []

/-- A cooldown of the first fighter after the contact. -/
def cooldownAfter (slot : Nat) (cooldown : Float32) : Float32 :=
  match x.entrant.loadout.weapons[slot]? with
  | some mounted =>
    if m.strikes x y = true ∧ x.current.isReady slot = true ∧
        mounted.weapon.kind ≠ .wedge ∧ mounted.weapon.kind ≠ .spinner then
      larger mounted.weapon.cooldownMs 0
    else cooldown
  | none => cooldown

end Definitions

variable {m : Bout}

/-! ### Damage -/

/-- What a fighter bears of a strike. -/
theorem bears_struck (m : Bout) (x y : Party) :
    y.next.bears ((m.struck y x).filterMap (Deed.due m.timestamp y.entrant)) =
      m.strikeLog x y := by
  have pushed : ∀ kicks : List (Nat × Vector2),
      (kicks.map fun k => Deed.push k.2).filterMap (Deed.due m.timestamp y.entrant) = [] := by
    intro kicks
    simp [List.filterMap_map, Function.comp_def, Deed.due]
  unfold struck strikeLog dealt
  rw [strikes_comm m y x, Party.strikeHarm_eq]
  by_cases strikes : m.strikes x y = true
  · rw [if_pos strikes, List.filterMap_append, pushed, List.nil_append]
    by_cases through :
        0 < armorReduced (x.rawStrike y m.speed) y.entrant.stats.damageReduction
    · have positive : 0 < x.rawStrike y m.speed := by
        by_contra harmless
        rw [armorReduced_eq_zero harmless] at through
        exact absurd through (by decide)
      by_cases alive : y.next.isAlive = true <;>
        simp [Deed.due, FighterState.bears, strikes, through, positive, alive]
    · simp [Deed.due, FighterState.bears, through]
  · simp [FighterState.bears, strikes]

theorem due_grinding (m : Bout) (x y : Party) :
    x.grinding.filterMap (Deed.due m.timestamp y.entrant) =
      if x.current.isAlive then x.entrant.grindsDue y.entrant m.timestamp else [] := by
  unfold Party.grinding
  split
  · exact due_ground x.entrant y.entrant m.timestamp
  · rfl

/-- What a fighter bears of spinners after a strike. -/
theorem bears_grinding (m : Bout) (x y : Party) :
    (y.next.after (m.strikeLog x y)).bears
        (x.grinding.filterMap (Deed.due m.timestamp y.entrant)) = m.grindLog x y := by
  rw [due_grinding]
  unfold grindLog
  split
  · rfl
  · rfl

theorem toll_stays (m : Bout) (x y : Party) : ∀ d ∈ m.struck y x ++ x.grinding, d ≠ .drop := by
  intro d member
  rcases List.mem_append.mp member with struck | ground
  · exact struck_stays m y x d struck
  · exact grinding_stays x d ground

theorem unscorable_fate_eq (m : Bout) (x y : Party) :
    (m.fate y x).unscorable =
      (endure m.timestamp y.entrant y.next (m.struck y x ++ x.grinding)).unscorable := by
  obtain ⟨-, -, unscorable, -⟩ := fate_eq_toll (m := m) (x := y) (y := x)
  have touched : y.next.vitals = (endure m.timestamp y.entrant y.next [.touch]).state.vitals := rfl
  rw [unscorable, toll_eq, List.cons_append, ← List.singleton_append, unscorable_endure_append,
    (endure_congr_vitals m.timestamp y.entrant touched (toll_stays m x y)).2.1]
  rfl

/-- All of the damage of a contact goes without an answer where hit points have no range. -/
theorem unscorable_fate_iff (m : Bout) (x y : Party) :
    (m.fate y x).unscorable = true ↔
      ¬ 0 ≤ y.next.maxHp ∧ m.strikeLog x y ++ m.grindLog x y ≠ [] := by
  rw [unscorable_fate_eq, unscorable_endure_iff (toll_stays m x y), List.filterMap_append,
    FighterState.bears_append, bears_struck, bears_grinding]

/-- Where all damage is scored, the strike and the spinners are on record. -/
theorem taken_of_scored (scored : (m.fate y x).unscorable = false) :
    m.strikeTaken y x = m.strikeLog x y ∧ m.grindTaken y x = m.grindLog x y := by
  rw [unscorable_fate_eq, unscorable_endure_append, Bool.or_eq_false_iff] at scored
  obtain ⟨damage, vitals⟩ := endure_damage (struck_stays m y x) scored.1
  have strike : m.strikeTaken y x = m.strikeLog x y := damage.trans (bears_struck m x y)
  have left : (endure m.timestamp y.entrant y.next (m.struck y x)).state.vitals =
      (y.next.after (m.strikeLog x y)).vitals := by
    rw [vitals, damage, bears_struck]
  refine ⟨strike, ?_⟩
  rw [grindTaken, (endure_damage (grinding_stays x) scored.2).1, FighterState.bears_congr left,
    bears_grinding]

/-! ### Cooldowns and pushes -/

theorem mem_outlay_iff {slot : Nat} {ms : Float32} :
    .trigger slot ms ∈ m.outlay x y ↔
      m.strikes x y = true ∧ ∃ mounted, x.entrant.loadout.weapons[slot]? = some mounted ∧
        x.current.isReady slot = true ∧ mounted.weapon.isTriggered = true ∧
        ms = mounted.weapon.cooldownMs := by
  have spends : .trigger slot ms ∈ spent x.current x.entrant ↔
      (slot, ms) ∈ triggered x.current 0 x.entrant.loadout.weapons := by
    simp [spent]
  unfold outlay
  by_cases strikes : m.strikes x y = true
  · rw [if_pos strikes, spends, mem_triggered_iff]
    simp [strikes]
  · simp [strikes]

/-- The cooldowns of a fighter after the contact. -/
theorem cooldowns_fate (m : Bout) (x y : Party) :
    (m.fate x y).state.cooldowns = x.next.cooldowns.mapIdx (m.cooldownAfter x y) := by
  have started : ∀ slot ms, .trigger slot ms ∈ m.toll x y ++ m.outlay x y ↔
      .trigger slot ms ∈ m.outlay x y := by
    intro slot ms
    simp [not_mem_toll_trigger]
  refine List.ext_getElem? fun slot => ?_
  rw [List.getElem?_mapIdx]
  unfold cooldownAfter fate
  cases mounted : x.entrant.loadout.weapons[slot]? with
  | none =>
      have idle : ∀ ms, .trigger slot ms ∉ m.toll x y ++ m.outlay x y := by
        intro ms
        rw [started, mem_outlay_iff, mounted]
        simp
      have alike : ∀ ms, .trigger slot ms ∈ m.toll x y ++ m.outlay x y → ms = 0 :=
        fun ms member => absurd member (idle ms)
      rw [cooldown_endure _ alike]
      simp only [idle, if_false]
  | some w =>
      have alike : ∀ ms, .trigger slot ms ∈ m.toll x y ++ m.outlay x y →
          ms = w.weapon.cooldownMs := by
        intro ms member
        obtain ⟨-, w', here, -, -, rfl⟩ := mem_outlay_iff.mp ((started slot ms).mp member)
        obtain rfl : w = w' := Option.some.inj (mounted.symm.trans here)
        rfl
      rw [cooldown_endure _ alike]
      have known : .trigger slot w.weapon.cooldownMs ∈ m.toll x y ++ m.outlay x y ↔
          m.strikes x y = true ∧ x.current.isReady slot = true ∧
            w.weapon.kind ≠ .wedge ∧ w.weapon.kind ≠ .spinner := by
        rw [started, mem_outlay_iff, mounted]
        simp [Weapon.isTriggered_iff]
      simp only [known]

/-- Every flipper of the other fighter that is ready gives a push. -/
theorem pushes_fate (scene : Scene) (c : Contact) (x y : Party) :
    ((Bout.of scene c).fate y x).pushes =
      if (Bout.of scene c).strikes x y then
        List.replicate x.readyFlippers (kick scene x.current y.current)
      else [] := by
  obtain ⟨-, pushes, -⟩ := fate_eq_toll (m := Bout.of scene c) (x := y) (y := x)
  rw [pushes, pushes_endure, toll_eq, List.filterMap_append, grinding_unpushed]
  unfold struck
  rw [dealt_of, strikes_comm _ y x]
  by_cases strikes : (Bout.of scene c).strikes x y = true
  · have pushed : List.filterMap Deed.force?
        (List.replicate x.readyFlippers (.push (kick scene x.current y.current))) =
          List.replicate x.readyFlippers (kick scene x.current y.current) :=
      List.filterMap_replicate_of_some rfl
    rw [if_pos strikes, if_pos strikes, ← pushed]
    simp [dealt, strikeHarm, kicks_eq_replicate, List.filterMap_cons, Deed.force?,
      Party.readyFlippers]
  · simp [strikes, Deed.force?]

/-- Without a new contact nobody strikes. -/
theorem strikes_of_persisting (old : c.isNew = false) : (Bout.of scene c).strikes x y = false := by
  have same : (Bout.of scene c).contact.isNew = c.isNew := rfl
  simp [strikes, same, old]

theorem cooldownAfter_of_unstruck {m : Bout} (unstruck : m.strikes x y = false) (slot : Nat)
    (cooldown : Float32) : m.cooldownAfter x y slot cooldown = cooldown := by
  unfold cooldownAfter
  split
  · exact if_neg (by simp [unstruck])
  · rfl

theorem cooldowns_of_unstruck {m : Bout} (unstruck : m.strikes x y = false) :
    (m.fate x y).state.cooldowns = x.next.cooldowns := by
  rw [cooldowns_fate]
  refine List.ext_getElem? fun slot => ?_
  have same : m.cooldownAfter x y slot = id :=
    funext fun cooldown => cooldownAfter_of_unstruck unstruck slot cooldown
  rw [List.getElem?_mapIdx, same, Option.map_id_apply]

theorem strikeTaken_of_unstruck {m : Bout} (unstruck : m.strikes x y = false) :
    m.strikeTaken x y = [] := by
  have spared : m.struck x y = [] := by simp [struck, unstruck]
  rw [strikeTaken, spared]
  rfl

/-- Spinners leave nothing but their own events. -/
theorem cause_of_grindTaken {m : Bout} {event : DamageEvent} (member : event ∈ m.grindTaken x y) :
    event.cause = .weapon .spinner := by
  rcases mem_endure member with ⟨raw, harm⟩ | ⟨-, -, dropped⟩
  · unfold Party.grinding ground at harm
    split at harm
    · obtain ⟨w, mounted, same⟩ := List.mem_map.mp harm
      obtain ⟨-, -, cause⟩ := Deed.harm.inj same
      have continuous : w.weapon.kind.isContinuous = true := by
        simpa using (List.mem_filter.mp mounted).2
      exact Cause.stage_eq_grind_iff.mp (cause ▸ if_pos continuous)
    · cases harm
  · exact absurd dropped not_mem_grinding_drop

end Bout

/-- A contact of two fighters follows the table of weapons. The contributions to a strike are
the rows of the table above zero, in slot order. If the contact is new and both fighters were
alive, each strikes the other: what is on record is one event of the armor-reduced sum and
momentum for the first fighter's strike, one for the second's, and then the spinners of the
first and of the second; exactly the slots that were ready and are neither wedge nor spinner
start their cooldown, and each ready flipper gives its target one push. All other fighters are
left as they were. Damage goes without an answer only where hit points have no range. A contact
that persists leaves cooldowns and pushes alone and records spinners only. -/
theorem contact_follows_table (full : r.Full scene) (first : x.Stands scene current r a)
    (second : y.Stands scene current r b) (apart : a ≠ b) (body : c.body = a)
    (other : c.other = .body b) :
    let m := Bout.of scene c
    let after := resolveContact scene current r c
    (x.FollowsTable c.speed ∧ y.FollowsTable c.speed) ∧
    (after.unscorable = true ↔ r.unscorable = true ∨
      (¬ 0 ≤ x.next.maxHp ∧ m.strikeLog y x ++ m.grindLog y x ≠ []) ∨
      (¬ 0 ≤ y.next.maxHp ∧ m.strikeLog x y ++ m.grindLog x y ≠ [])) ∧
    (after.unscorable = false → after.damage =
      r.damage ++ m.strikeLog x y ++ m.strikeLog y x ++ m.grindLog x y ++ m.grindLog y x) ∧
    (∃ s t, after.states = (r.states.set a s).set b t ∧
      s.cooldowns = x.next.cooldowns.mapIdx (m.cooldownAfter x y) ∧
      t.cooldowns = y.next.cooldowns.mapIdx (m.cooldownAfter y x)) ∧
    after.pushes = r.pushes ++
      (if m.strikes x y then
        List.replicate x.readyFlippers (b, kick scene x.current y.current) ++
          List.replicate y.readyFlippers (a, kick scene y.current x.current)
      else []) ∧
    (c.isNew = false → after.pushes = r.pushes ∧
      after.states.map (·.cooldowns) = r.states.map (·.cooldowns) ∧
      ∃ events, after.damage = r.damage ++ events ∧
        ∀ event ∈ events, event.cause = .weapon .spinner) := by
  intro m after
  have settled := Bout.resolveContact_eq full first second apart body other
  have named : Bout.of scene c = m := rfl
  have unscorable : after.unscorable =
      (r.unscorable || ((m.fate x y).unscorable || (m.fate y x).unscorable)) :=
    congrArg Ruling.unscorable settled
  have pushes : after.pushes = r.pushes ++
      ((m.fate y x).pushes.map (b, ·) ++ (m.fate x y).pushes.map (a, ·)) :=
    congrArg Ruling.pushes settled
  have damage : after.damage = r.damage ++
      (m.strikeTaken y x ++ m.strikeTaken x y ++ m.grindTaken y x ++ m.grindTaken x y) :=
    congrArg Ruling.damage settled
  have states : after.states = (r.states.set a (m.fate x y).state).set b (m.fate y x).state :=
    congrArg Ruling.states settled
  rw [Bout.pushes_fate, Bout.pushes_fate, Bout.strikes_comm _ y x, named] at pushes
  refine ⟨⟨x.followsTable c.speed, y.followsTable c.speed⟩, ?_, ?_,
    ⟨_, _, states, Bout.cooldowns_fate m x y, Bout.cooldowns_fate m y x⟩, ?_, ?_⟩
  · rw [unscorable, Bool.or_eq_true_iff, Bool.or_eq_true_iff, Bout.unscorable_fate_iff,
      Bout.unscorable_fate_iff]
  · intro scored
    rw [unscorable, Bool.or_eq_false_iff, Bool.or_eq_false_iff] at scored
    obtain ⟨strike, grind⟩ := Bout.taken_of_scored scored.2.2
    obtain ⟨strike', grind'⟩ := Bout.taken_of_scored scored.2.1
    rw [damage, strike, grind, strike', grind']
    simp
  · rw [pushes]
    by_cases strikes : m.strikes x y = true
    · simp [strikes]
    · simp [strikes]
  · intro old
    have unstruck : m.strikes x y = false := Bout.strikes_of_persisting old
    have unstruck' : m.strikes y x = false := Bout.strikes_of_persisting old
    refine ⟨by simpa [unstruck] using pushes, ?_, m.grindTaken y x ++ m.grindTaken x y, ?_, ?_⟩
    · have there : (r.states.set a (m.fate x y).state)[b]? = some y.next := by
        rw [List.getElem?_set_ne apart, second.moved]
      rw [states, map_set there (Bout.cooldowns_of_unstruck unstruck'),
        map_set first.moved (Bout.cooldowns_of_unstruck unstruck)]
    · rw [damage, Bout.strikeTaken_of_unstruck unstruck, Bout.strikeTaken_of_unstruck unstruck']
      simp
    · intro event member
      rcases List.mem_append.mp member with taken | taken
      · exact Bout.cause_of_grindTaken taken
      · exact Bout.cause_of_grindTaken taken

/-- A light fighter with a flipper and a spinner. -/
def tosser : Build :=
  { Build.bare "tosser" "scout" .usual with weaponIds := ["basicFlipper", "miniSpinner"] }

/-- A fighter of the stock catalog as it stands at a position with cooldowns. -/
def Party.ofBuild (b : Build) (spawn : Vector2) (cooldowns : List Float32) : Party :=
  let e := Entrant.of b spawn .stock
  let s := { e.spawnState with cooldowns := cooldowns }
  ⟨e, s, s⟩

/-- The flipper is ready. -/
def tossing : Party := .ofBuild tosser ⟨390, 300⟩ [0, 0]

/-- The hammer still cools down. -/
def tossed : Party := .ofBuild Roster.smith ⟨410, 300⟩ [1000, 0]

/-- The two of them on a bare floor. -/
def tossScene : Scene := ⟨⟨[tossing.entrant, tossed.entrant]⟩, .plain, 100, 5⟩

/-- They run into each other. -/
def toss : Contact := ⟨0, .body 1, .begun, 2⟩

/-- The flipper strikes and pushes, the wedge strikes in place of the hammer, and the spinner
comes last. -/
theorem toss_follows_table :
    let current := [tossing.current, tossed.current]
    let r := Ruling.start [tossing.next, tossed.next]
    let after := resolveContact tossScene current r toss
    r.Full tossScene ∧ tossing.Stands tossScene current r 0 ∧ tossed.Stands tossScene current r 1 ∧
      after.damage.map (·.cause) = [.weapon .flipper, .weapon .wedge, .weapon .spinner] ∧
      after.pushes = [(1, ⟨290, -175⟩)] := by
  intro current r after
  have full : r.Full tossScene := rfl
  have first : tossing.Stands tossScene current r 0 := ⟨rfl, rfl, rfl⟩
  have second : tossed.Stands tossScene current r 1 := ⟨rfl, rfl, rfl⟩
  have scored : after.unscorable = false := by decide +kernel
  obtain ⟨-, -, damage, -, pushes, -⟩ :=
    contact_follows_table (c := toss) full first second (by decide) rfl rfl
  refine ⟨full, first, second, ?_, ?_⟩
  · rw [damage scored]
    decide +kernel
  · rw [pushes]
    decide +kernel

end Combat

end RobotCombat
