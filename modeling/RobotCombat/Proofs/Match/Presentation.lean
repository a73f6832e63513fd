/-
# RobotCombat.Proofs.Match.Presentation — the show leaves the fight alone

Seed, commentary, pacing, recording and the labels of the fighters make up the show.
`Battle.stripped` is a match without the show, and every stage of a tick is the same
for a match and for the match without it. So a tick is determined by the stripped
match (`tickOnce_stripped`), two matches that agree without their shows stay `Alike`
tick by tick, and they end alike.

* `runBattle_alike`: the records of two matches that differ in their shows alone
  agree on all that happened in the fight.
-/
import RobotCombat.Proofs.Damage.Stripped
import RobotCombat.Proofs.Match.Verdict

namespace RobotCombat

set_option autoImplicit false

/-- The settings without seed, recording, commentary and pacing. -/
def MatchConfig.stripped (c : MatchConfig) : MatchConfig :=
  { c with seed := 0, recordFrames := false, narration := .broadcast, pacing := .headless }

/-! ## Decisions -/

namespace Controller

def stripped : Controller → Controller
  | .preset t => .preset t.stripped
  | .scripted program spentMs => .scripted program spentMs

theorem ofStrategy_stripped (s : Strategy) :
    (ofStrategy s.stripped).stripped = (ofStrategy s).stripped := by
  cases s <;> rfl

theorem intent_stripped (c : Controller) (view : View) :
    (c.stripped.decide view).1 = (c.decide view).1 := by
  cases c <;> rfl

theorem next_stripped (c : Controller) (view : View) :
    (c.stripped.decide view).2.stripped = (c.decide view).2.stripped := by
  cases c <;> rfl

end Controller

namespace Battle

/-- The match without its show. -/
def stripped (b : Battle) : Battle :=
  { b with
    config := b.config.stripped
    roster := b.roster.stripped
    controllers := b.controllers.map Controller.stripped
    narrator := .ofSeed .broadcast 0
    frames := #[] }

/-! ## The stages of a tick -/

variable (b : Battle)

@[simp] theorem combatant?_stripped (place : Nat) :
    b.stripped.combatant? place = b.combatant? place := by
  have same : ∀ (e : Entrant) (s : FighterState), Combatant.of e.stripped s = .of e s := by
    intro e s
    simp [Combatant.of, Entrant.stripped]
  unfold combatant? stripped
  rw [Roster.get?_stripped]
  cases b.roster.get? place <;> cases b.states[place]? <;> simp [same]

@[simp] theorem view?_stripped (place : Nat) : b.stripped.view? place = b.view? place := by
  have opponent : b.stripped.roster.opponentOf? place = b.roster.opponentOf? place :=
    b.roster.opponentOf?_stripped place
  have combatants : b.stripped.combatant? = b.combatant? := funext b.combatant?_stripped
  unfold view?
  rw [opponent, combatants]
  rfl

theorem decideAt_stripped (controller : Controller) (place : Nat) :
    (b.stripped.decideAt controller.stripped place).1 = (b.decideAt controller place).1 ∧
      (b.stripped.decideAt controller.stripped place).2.stripped =
        (b.decideAt controller place).2.stripped := by
  unfold decideAt
  rw [view?_stripped]
  cases b.view? place with
  | none => exact ⟨rfl, by cases controller <;> rfl⟩
  | some view => exact ⟨controller.intent_stripped view, controller.next_stripped view⟩

/-- What is read off the decisions is the same if it is the same for each. -/
theorem map_decisions_stripped {α : Type} (f : Intent × Controller → α)
    (each : ∀ controller place, f (b.stripped.decideAt controller.stripped place) =
      f (b.decideAt controller place)) :
    b.stripped.decisions.map f = b.decisions.map f := by
  have controllers : b.stripped.controllers = b.controllers.map Controller.stripped := rfl
  unfold decisions
  simp [controllers, List.zipIdx_map, each]

@[simp] theorem intents_stripped : b.stripped.intents = b.intents :=
  b.map_decisions_stripped _ fun controller place => (b.decideAt_stripped controller place).1

theorem nextControllers_stripped :
    (b.stripped.decisions.map (·.2)).map Controller.stripped =
      (b.decisions.map (·.2)).map Controller.stripped := by
  rw [List.map_map, List.map_map]
  exact b.map_decisions_stripped _ fun controller place => (b.decideAt_stripped controller place).2

@[simp] theorem nextWorld_stripped : b.stripped.nextWorld = b.nextWorld := by
  have drives : b.stripped.drive = b.drive := by
    funext w intent place
    unfold drive
    rw [combatant?_stripped]
    rfl
  unfold nextWorld driven
  rw [intents_stripped, drives]
  rfl

@[simp] theorem moved_stripped : b.stripped.moved = b.moved := by
  unfold moved
  rw [nextWorld_stripped, intents_stripped]
  rfl

@[simp] theorem ruling_stripped : b.stripped.ruling = b.ruling := by
  unfold ruling
  rw [moved_stripped, nextWorld_stripped]
  exact Ruling.ofContacts_stripped b.scene b.states b.moved b.nextWorld.contacts

@[simp] theorem settled_stripped : b.stripped.settled = b.settled := by
  unfold settled
  rw [ruling_stripped]
  rfl

@[simp] theorem verdict_stripped : b.stripped.verdict = b.verdict := by
  unfold verdict
  rw [settled_stripped]
  rfl

/-- One tick of the fight alone. -/
def fightOnce (b : Battle) : Battle :=
  { b with
    controllers := (b.decisions.map (·.2)).map Controller.stripped
    world := b.nextWorld
    states := b.settled
    previous := b.states
    pushes := b.ruling.pushes
    damageLog := b.damageLog ++ b.ruling.damage
    lastDamage := b.ruling.damage
    tick := b.tick + 1
    outcome := b.verdict
    unscorable := b.unscorable || b.ruling.unscorable }

/-- What a tick does to the fight is determined by the match without its show. -/
theorem tickOnce_stripped : b.tickOnce.stripped = b.stripped.fightOnce := by
  rw [tickOnce_eq]
  unfold fightOnce
  rw [nextControllers_stripped, nextWorld_stripped, settled_stripped, ruling_stripped,
    verdict_stripped]
  simp only [Battle.stripped]

/-! ## Two matches -/

/-- Two matches with the same fight, and the same frames if both keep them. -/
structure Alike (b b' : Battle) : Prop where
  fight : b.stripped = b'.stripped
  frames : b.config.recordFrames = true → b'.config.recordFrames = true → b.frames = b'.frames

namespace Alike

variable {b b' : Battle}

/-- What is read off a match without its show is the same for both. -/
theorem reading {α : Type} (alike : Alike b b') (f : Battle → α)
    (fight : ∀ b : Battle, f b.stripped = f b) : f b = f b' := by
  rw [← fight b, alike.fight, fight b']

theorem isFinished (alike : Alike b b') : b.isFinished = b'.isFinished :=
  alike.reading Battle.isFinished fun _ => rfl

theorem tickOnce (alike : Alike b b') : Alike b.tickOnce b'.tickOnce where
  fight := by rw [tickOnce_stripped, tickOnce_stripped, alike.fight]
  frames := by
    rw [tickOnce_config, tickOnce_config]
    intro records records'
    have before := alike.frames records records'
    have frame : Frame.mk (b.tick + 1) b.scene.timestamp b.settled b.ruling.damage =
        ⟨b'.tick + 1, b'.scene.timestamp, b'.settled, b'.ruling.damage⟩ :=
      alike.reading
        (fun b => Frame.mk (b.tick + 1) b.scene.timestamp b.settled b.ruling.damage)
        fun b => by
          rw [settled_stripped, ruling_stripped]
          rfl
    rw [tickOnce_eq, tickOnce_eq]
    simp only [records, records', if_true, before, frame]

theorem runFor (alike : Alike b b') : ∀ n : Nat, Alike (b.runFor n) (b'.runFor n) := by
  intro n
  induction n generalizing b b' with
  | zero => exact alike
  | succ n ih =>
      rw [Battle.runFor, Battle.runFor, alike.isFinished]
      split
      · exact alike
      · exact ih alike.tickOnce

theorem run (alike : Alike b b') : Alike b.run b'.run := by
  have most : max 1 (b.config.maxTicks - b.tick) = max 1 (b'.config.maxTicks - b'.tick) :=
    alike.reading (fun b => max 1 (b.config.maxTicks - b.tick)) fun _ => rfl
  unfold Battle.run
  rw [most]
  exact alike.runFor _

end Alike

/-! ## From the first tick to the record -/

/-- The fight at the beginning is determined by fighters and settings without labels. -/
theorem start_stripped (r : Roster) (a : Arena) (c : MatchConfig) :
    (start r a c).stripped =
      { start r.stripped a c.stripped with
        controllers := (start r.stripped a c.stripped).controllers.map Controller.stripped
        narrator := .ofSeed .broadcast 0 } := by
  have controllers : (start r a c).controllers.map Controller.stripped =
      (start r.stripped a c.stripped).controllers.map Controller.stripped := by
    simp [start, Roster.stripped, Entrant.stripped, Build.stripped, Build.bare,
      Controller.ofStrategy_stripped]
  have world : (start r a c).world = (start r.stripped a c.stripped).world := by
    simp [start, Roster.stripped, List.foldl_map, MatchConfig.stripped]
    rfl
  unfold Battle.stripped
  rw [controllers, world]
  simp [start]

theorem start_alike {r r' : Roster} {c c' : MatchConfig} (fighters : r.stripped = r'.stripped)
    (settings : c.stripped = c'.stripped) (a : Arena) : Alike (start r a c) (start r' a c') where
  fight := by rw [start_stripped, start_stripped, fighters, settings]
  frames := fun _ _ => rfl

end Battle

/-- A match keeps its settings. -/
theorem Battle.run_config {b : Battle} (going : b.isFinished = false) :
    b.run.config = b.config := by
  obtain ⟨n, -, -, same, -, -⟩ := Battle.run_eq_steps going
  rw [same, Battle.steps_config]

/-- The same fighters beside the same fighters. -/
theorem Build.SameFighter.beside {c c' : Catalog} {f f' g g' : Build}
    (first : SameFighter c c' f f') (second : SameFighter c c' g g') :
    SameFighter c c' (g.beside f) (g'.beside f') := by
  have parts : ∀ (b a : Build) (c : Catalog),
      Loadout.resolve (b.beside a) c = Loadout.resolve b c := by
    intro b a c
    unfold Build.beside
    split <;> rfl
  have strategy : ∀ b a : Build, (b.beside a).strategy = b.strategy := by
    intro b a
    unfold Build.beside
    split <;> rfl
  constructor
  · rw [beside_id, beside_id, first.id, second.id]
  · rw [strategy, strategy, second.strategy]
  · rw [parts, parts, second.chassis]
  · rw [parts, parts, second.weapons]
  · rw [parts, parts, second.armor]

namespace Battle

variable {c c' : Catalog} {f f' g g' : Build} {arenaId arenaId' : String} {m m' : MatchConfig}

/-- The show leaves the fight alone. -/
theorem runBattle_alike (first : Build.SameFighter c c' f f')
    (second : Build.SameFighter c c' g g')
    (floor : c.arenaOrFallback arenaId = c'.arenaOrFallback arenaId')
    (tick : m.tickMs = m'.tickMs) (limit : m.maxDurationMs = m'.maxDurationMs)
    (spawns : m.spawnFractions = m'.spawnFractions) (physics : m.physics = m'.physics) :
    let record := runBattle f g arenaId c m
    let record' := runBattle f' g' arenaId' c' m'
    record.winner = record'.winner ∧ record.duration = record'.duration ∧
      record.frameCount = record'.frameCount ∧ record.finalStates = record'.finalStates ∧
      record.damageLog = record'.damageLog ∧ record.timedOut = record'.timedOut ∧
      (m.recordFrames = true → m'.recordFrames = true → record.frames = record'.frames) := by
  have settings : m.stripped = m'.stripped := by
    simp [MatchConfig.stripped, tick, limit, spawns, physics]
  have fighters : (pairing f g (c.arenaOrFallback arenaId) c m).stripped =
      (pairing f' g' (c'.arenaOrFallback arenaId') c' m').stripped := by
    simp [pairing_eq, Roster.stripped, floor, spawns, first.entrant, (first.beside second).entrant]
  have begins : Alike (battleOf f g arenaId c m) (battleOf f' g' arenaId' c' m') := by
    unfold battleOf
    rw [floor] at fighters ⊢
    exact start_alike fighters settings _
  have ends := begins.run
  refine ⟨ends.reading (·.result.winner) fun _ => rfl,
    ends.reading (·.result.duration) fun _ => rfl,
    ends.reading (·.result.frameCount) fun _ => rfl,
    ends.reading (·.result.finalStates) fun _ => rfl,
    ends.reading (·.result.damageLog) fun _ => rfl,
    ends.reading (·.result.timedOut) fun _ => rfl, fun records records' => ?_⟩
  have config : (battleOf f g arenaId c m).run.config = m := run_config rfl
  have config' : (battleOf f' g' arenaId' c' m').run.config = m' := run_config rfl
  exact congrArg Array.toList
    (ends.frames (by rw [config, records]) (by rw [config', records']))

/-- A fighter under another name and in another color, with one word for a part that
nobody knows and a distance that no behavior uses. -/
def relabeled : Build :=
  { Roster.sawyer with
    name := "Old Sawyer", color := "red", weaponIds := ["net", "buzzSaw"],
    strategy := .preset { Tuning.of .aggressive with engagementDistance := 7 } }

/-- A match that is watched and recorded, with a seed. -/
def shown : MatchConfig := { MatchConfig.interactive with recordFrames := true, seed := 99 }

/-- On an arena that stands for the usual one the relabeled fighter has the fight of
the usual match. -/
theorem runBattle_alike_relabeled :
    Build.SameFighter .stock .stock Roster.sawyer relabeled ∧
      (runBattle Roster.sawyer Roster.smith "basicPit" .stock .usual).winner =
        (runBattle relabeled Roster.smith "nowhere" .stock shown).winner ∧
      (runBattle Roster.sawyer Roster.smith "basicPit" .stock .usual).damageLog =
        (runBattle relabeled Roster.smith "nowhere" .stock shown).damageLog := by
  have first : Build.SameFighter .stock .stock Roster.sawyer relabeled :=
    ⟨rfl, by decide, rfl, by decide, rfl⟩
  have second : Build.SameFighter .stock .stock Roster.smith Roster.smith :=
    ⟨rfl, rfl, rfl, rfl, rfl⟩
  have floor : Catalog.stock.arenaOrFallback "basicPit" =
      Catalog.stock.arenaOrFallback "nowhere" := rfl
  have tick : MatchConfig.usual.tickMs = shown.tickMs := rfl
  have same := runBattle_alike first second floor tick rfl rfl rfl
  obtain ⟨winner, -, -, -, damage, -⟩ := same
  exact ⟨first, winner, damage⟩

end Battle

end RobotCombat
