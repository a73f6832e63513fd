/-
# RobotCombat.Proofs.Tactics.RamCycle — the memory of a script over a whole run

A scripted controller carries one number from view to view. `Program.ram?` singles out the
views that touch it, those on which the program rams:

* `decide_of_ram`, `decide_of_other`: what one view does to a controller;
* `spent_eq_cycle`: after any run the number is the time of the ram decisions since the
  last reset, by induction on the run from its end;
* `scripted_ram_cycle`: the decisions of a run, each in terms of the run before it.
-/
import RobotCombat.Proofs.Fighter.Entered
import RobotCombat.Proofs.Number.Sign
import RobotCombat.Tactics.Controller

namespace RobotCombat

set_option autoImplicit false

open Number
open Script (Program)

/-- The way a program rams along on a view, if it is asked anything and chooses to ram. -/
def Script.Program.ram? (p : Program) (view : View) : Option Approach :=
  view.opponent.bind fun enemy =>
    if view.me.state.isAlive ∧ p.act (factsOf view.me enemy view.arena) = .ram then
      some (Approach.between view.me.state.position enemy.state.position)
    else none

namespace Controller

/-- A controller after a run of views. -/
def watch (c : Controller) (views : List View) : Controller :=
  views.foldl (fun c view => (c.decide view).2) c

/-- The time a controller remembers. -/
def spentMs : Controller → Float32
  | .preset _ => 0
  | .scripted _ spent => spent

@[simp] theorem spentMs_scripted (p : Program) (spent : Float32) :
    spentMs (.scripted p spent) = spent := rfl

theorem watch_append (c : Controller) (first second : List View) :
    c.watch (first ++ second) = (c.watch first).watch second := List.foldl_append

theorem watch_snoc (c : Controller) (views : List View) (view : View) :
    c.watch (views ++ [view]) = ((c.watch views).decide view).2 := watch_append c views [view]

end Controller

open Controller

/-- The time of the ram decisions among some views, added from the first to the last. -/
def ramTime (p : Program) (views : List View) : Float32 :=
  (views.filter fun view => (p.ram? view).isSome).foldl (fun spent view => spent + view.dtMs) 0

/-- After a run, the program charges on a view along a way. -/
def Charges (p : Program) (seen : List View) (view : View) (way : Approach) : Prop :=
  p.ram? view = some way ∧
    ¬ (watch (.scripted p 0) seen).spentMs + view.dtMs < ramWindupMs

/-- After a run, the program charges on a view so near that its cycle starts over. -/
def Resets (p : Program) (seen : List View) (view : View) : Prop :=
  ∃ way, Charges p seen view way ∧ way.distance < ramResetDistance

section Decision

variable (p : Program) (spent : Float32) {view : View}

/-- The direction of a decision to ram. -/
def ramDirection (way : Approach) (spent : Float32) : Vector2 :=
  if spent < ramWindupMs then -way.toward else way.toward * (1.5 : Float32)

theorem ram?_eq_some_iff {way : Approach} :
    p.ram? view = some way ↔ ∃ enemy, view.opponent = some enemy ∧
      view.me.state.isAlive = true ∧ p.act (factsOf view.me enemy view.arena) = .ram ∧
      Approach.between view.me.state.position enemy.state.position = way := by
  simp only [Script.Program.ram?, Option.bind_eq_some_iff, Option.ite_none_right_eq_some,
    Option.some.injEq, and_assoc]

/-- The time spent after a decision to ram, and whether it charges, read apart. -/
theorem ramCharge_eq (spent dtMs distance : Float32) :
    ramCharge spent dtMs distance =
      (if ¬ spent + dtMs < ramWindupMs ∧ distance < ramResetDistance then 0 else spent + dtMs,
        decide (¬ spent + dtMs < ramWindupMs)) := by
  unfold ramCharge
  by_cases windup : spent + dtMs < ramWindupMs
  · simp [windup]
  · by_cases near : distance < ramResetDistance <;> simp [windup, near]

/-- A decision to ram: the time grows by the view's, and is spent at once by a charge that
comes near. -/
theorem decide_of_ram {way : Approach} (rams : p.ram? view = some way) :
    (∃ rule, ((Controller.scripted p spent).decide view).1 =
      .ofSteering ⟨ramDirection way (spent + view.dtMs), way.heading, way.distance < 60⟩
        "ram" rule) ∧
    ((Controller.scripted p spent).decide view).2 = .scripted p
      (if ¬ spent + view.dtMs < ramWindupMs ∧ way.distance < ramResetDistance then 0
        else spent + view.dtMs) := by
  obtain ⟨enemy, met, alive, chosen, rfl⟩ := (ram?_eq_some_iff p).mp rams
  have action : (p.select (factsOf view.me enemy view.arena)).action = .ram := chosen
  simp only [Controller.decide, scriptedIntent, met, alive, if_true, action, ramSpent,
    ramCharge_eq, actionSteering, ramDirection, decide_eq_true_eq, ite_not]
  exact ⟨⟨_, rfl⟩, trivial⟩

/-- Any other decision, and the answer of an idle controller, leaves the time alone. -/
theorem decide_of_other (other : p.ram? view = none) :
    ((Controller.scripted p spent).decide view).1.label ≠ "ram" ∧
      ((Controller.scripted p spent).decide view).2 = .scripted p spent := by
  have idle : Intent.idle.label ≠ "ram" := by decide
  simp only [Controller.decide, scriptedIntent]
  rcases met : view.opponent with _ | enemy
  · exact ⟨idle, rfl⟩
  · by_cases alive : view.me.state.isAlive
    · have chosen : (p.select (factsOf view.me enemy view.arena)).action ≠ .ram := by
        intro chosen
        rw [(ram?_eq_some_iff p).mpr ⟨enemy, met, alive, chosen, rfl⟩] at other
        cases other
      simp only [alive, if_true, Intent.ofSteering]
      cases action : (p.select (factsOf view.me enemy view.arena)).action with
      | ram => exact absurd action chosen
      | _ => exact ⟨by simp [Script.Action.name], rfl⟩
    · simp only [alive, if_false, Bool.false_eq_true]
      exact ⟨idle, trivial⟩

end Decision

section Run

variable (p : Program)

/-- What a controller remembers stays with its program. -/
theorem watch_scripted (seen : List View) :
    watch (.scripted p 0) seen = .scripted p (watch (.scripted p 0) seen).spentMs := by
  induction seen using List.reverseRecOn with
  | nil => rfl
  | append_singleton seen view ih =>
      rw [watch_snoc, ih]
      rcases rams : p.ram? view with _ | way
      · rw [(decide_of_other p _ rams).2, spentMs_scripted]
      · rw [(decide_of_ram p _ rams).2, spentMs_scripted]

/-- Views on which a program does not ram leave its controller alone. -/
theorem watch_of_idle (spent : Float32) {views : List View}
    (others : ∀ view ∈ views, p.ram? view = none) :
    watch (.scripted p spent) views = .scripted p spent := by
  induction views with
  | nil => rfl
  | cons view views ih =>
      have kept := (decide_of_other p spent (others view List.mem_cons_self)).2
      show watch ((Controller.scripted p spent).decide view).2 views = _
      rw [kept]
      exact ih fun view there => others view (List.mem_cons_of_mem _ there)

theorem ramTime_snoc (views : List View) (view : View) :
    ramTime p (views ++ [view]) =
      if (p.ram? view).isSome then ramTime p views + view.dtMs else ramTime p views := by
  simp only [ramTime, List.filter_append, List.filter_singleton, List.foldl_append]
  cases (p.ram? view).isSome <;> rfl

/-- A run ends in a cycle: it starts over at the last reset, or at the creation. -/
structure Cycle (seen past cycle : List View) : Prop where
  parts : seen = past ++ cycle
  since : past = [] ∨ ∃ earlier last, past = earlier ++ [last] ∧ Resets p earlier last
  unbroken : ∀ during view later, cycle = during ++ view :: later →
    ¬ Resets p (past ++ during) view

/-- A view that does not reset goes on with the cycle. -/
theorem Cycle.snoc {seen past cycle : List View} (run : Cycle p seen past cycle) {view : View}
    (keeps : ¬ Resets p seen view) : Cycle p (seen ++ [view]) past (cycle ++ [view]) where
  parts := by rw [run.parts, List.append_assoc]
  since := run.since
  unbroken := by
    intro during other later parts
    rcases List.eq_nil_or_concat later with rfl | ⟨later, last, rfl⟩
    · obtain ⟨rfl, rfl⟩ : cycle = during ∧ view = other := by simpa using parts
      rwa [← run.parts]
    · have ends : cycle ++ [view] = (during ++ other :: later) ++ [last] := by simpa using parts
      exact run.unbroken during other later (List.append_inj_left' ends rfl)

/-- After any run a controller remembers the time of the ram decisions since the last reset. -/
theorem spent_eq_cycle (seen : List View) :
    ∃ past cycle, Cycle p seen past cycle ∧
      (watch (.scripted p 0) seen).spentMs = ramTime p cycle := by
  induction seen using List.reverseRecOn with
  | nil =>
      exact ⟨[], [], ⟨rfl, Or.inl rfl, by simp⟩, rfl⟩
  | append_singleton seen view ih =>
      obtain ⟨past, cycle, run, spent⟩ := ih
      rw [watch_snoc, watch_scripted]
      by_cases starts : Resets p seen view
      · obtain ⟨way, ⟨rams, charging⟩, near⟩ := starts
        refine ⟨seen ++ [view], [], ⟨by simp, Or.inr ⟨seen, view, rfl, way, ⟨rams, charging⟩, near⟩,
          by simp⟩, ?_⟩
        rw [(decide_of_ram p _ rams).2, if_pos ⟨charging, near⟩]
        rfl
      · refine ⟨past, cycle ++ [view], run.snoc p starts, ?_⟩
        rw [ramTime_snoc, ← spent]
        rcases rams : p.ram? view with _ | way
        · rw [(decide_of_other p _ rams).2]
          rfl
        · have goesOn : ¬ (¬ (watch (.scripted p 0) seen).spentMs + view.dtMs < ramWindupMs ∧
              way.distance < ramResetDistance) := fun ⟨charging, near⟩ =>
            starts ⟨way, ⟨rams, charging⟩, near⟩
          rw [(decide_of_ram p _ rams).2, if_neg goesOn]
          rfl

/-- A short view right after a reset does not charge, whatever came between but ramming. -/
theorem not_charges_after_reset {seen between : List View} {first second : View}
    (start : Resets p seen first) (others : ∀ view ∈ between, p.ram? view = none)
    (short : second.dtMs < ramWindupMs) (way : Approach) :
    ¬ Charges p (seen ++ first :: between) second way := by
  obtain ⟨near, ⟨rams, charging⟩, close⟩ := start
  have restarted : watch (.scripted p 0) (seen ++ first :: between) = .scripted p 0 := by
    rw [List.append_cons, watch_append, watch_snoc, watch_scripted, (decide_of_ram p _ rams).2,
      if_pos ⟨charging, close⟩]
    exact watch_of_idle p 0 others
  rintro ⟨-, charging⟩
  rw [restarted, spentMs_scripted] at charging
  -- The first sum of a cycle is `0 + dt`, which is `dt` up to the sign of zero.
  exact charging (((zero_add_level second.dtMs).lt_iff (Level.refl ramWindupMs)).mpr short)

/-- The ram cycle over whole runs. What a controller remembers after any run is the time of
the ram decisions since the last reset, or since its creation. On the next view:

* any other decision, and an idle answer, keeps it;
* a decision to ram backs off while the time, the view's own included, is below the windup,
  and charges otherwise;
* it starts over exactly at a charge that comes near, so of two successive decisions to ram
  that are both near, the second one short, not both charge. -/
theorem scripted_ram_cycle (p : Program) (seen : List View) :
    (∃ past cycle, Cycle p seen past cycle ∧
      watch (.scripted p 0) seen = .scripted p (ramTime p cycle)) ∧
    (∀ view, p.ram? view = none →
      ((watch (.scripted p 0) seen).decide view).1.label ≠ "ram" ∧
      watch (.scripted p 0) (seen ++ [view]) = watch (.scripted p 0) seen) ∧
    (∀ view way, p.ram? view = some way →
      let spent := (watch (.scripted p 0) seen).spentMs + view.dtMs
      way.toward = (if 0 < way.distance then way.delta / way.distance else .right) ∧
      (∃ rule, ((watch (.scripted p 0) seen).decide view).1 =
        .ofSteering ⟨if spent < 500 then -way.toward else way.toward * (1.5 : Float32),
          way.heading, way.distance < 60⟩ "ram" rule) ∧
      (Charges p seen view way ↔ ¬ spent < 500) ∧
      (Resets p seen view ↔ Charges p seen view way ∧ way.distance < 80) ∧
      (Resets p seen view → watch (.scripted p 0) (seen ++ [view]) = .scripted p 0) ∧
      (¬ Resets p seen view → watch (.scripted p 0) (seen ++ [view]) = .scripted p spent)) ∧
    (∀ first between second way way', p.ram? first = some way → way.distance < 80 →
      (∀ view ∈ between, p.ram? view = none) →
      p.ram? second = some way' → way'.distance < 80 → second.dtMs < 500 →
      ¬ (Charges p seen first way ∧ Charges p (seen ++ first :: between) second way')) := by
  refine ⟨?_, ?_, ?_, ?_⟩
  · obtain ⟨past, cycle, run, spent⟩ := spent_eq_cycle p seen
    exact ⟨past, cycle, run, spent ▸ watch_scripted p seen⟩
  · intro view other
    rw [watch_snoc, watch_scripted p seen]
    exact decide_of_other p _ other
  · intro view way rams spent
    obtain ⟨intent, memory⟩ :=
      decide_of_ram p (watch (.scripted p 0) seen).spentMs rams
    rw [← watch_scripted p seen] at intent memory
    rw [watch_snoc, memory]
    obtain ⟨enemy, -, -, -, straight⟩ := (ram?_eq_some_iff p).mp rams
    have charges : Charges p seen view way ↔ ¬ spent < 500 := and_iff_right rams
    have resets : Resets p seen view ↔ Charges p seen view way ∧ way.distance < 80 := by
      constructor
      · rintro ⟨other, charging, near⟩
        obtain rfl : other = way := Option.some.inj (charging.1.symm.trans rams)
        exact ⟨charging, near⟩
      · rintro ⟨charging, near⟩
        exact ⟨way, charging, near⟩
    refine ⟨by rw [← straight]; rfl, intent, charges, resets, fun starts => ?_,
      fun goesOn => ?_⟩
    · rw [resets, charges] at starts
      exact congrArg (Controller.scripted p) (if_pos starts)
    · rw [resets, charges] at goesOn
      exact congrArg (Controller.scripted p) (if_neg goesOn)
  · rintro first between second way way' - near others - - short ⟨charging, again⟩
    exact not_charges_after_reset p ⟨way, charging, near⟩ others short way' again

end Run

/-- Waits far from its opponent and rams near it. -/
def brawler : Program :=
  ⟨[.whenever [⟨.distanceToEnemy, .greater, .number 200⟩] .wait 1, .always .ram 2]⟩

/-- An opponent stands straight to the right, and 300 ms have passed. -/
def sighting (enemyAt : Float32) : View :=
  let me := Entrant.of Roster.sawyer ⟨100, 300⟩ .stock
  let enemy := Entrant.of Roster.smith ⟨enemyAt, 300⟩ .stock
  ⟨.of me me.spawnState, some (.of enemy enemy.spawnState), .plain, 300⟩

/-- The second near sighting in a row starts the cycle over, so after a far one the third
does not charge. -/
theorem brawler_ram_cycle :
    let near := sighting 150
    let far := sighting 400
    let way := Approach.between ⟨100, 300⟩ ⟨150, 300⟩
    Charges brawler [near] near way ∧ ¬ Charges brawler [near, near, far] near way := by
  intro near far way
  have rams : brawler.ram? near = some way :=
    (ram?_eq_some_iff brawler).mpr ⟨_, rfl, by decide +kernel, by decide +kernel, rfl⟩
  have close : way.distance < 80 := by decide +kernel
  have waits : ∀ view ∈ [far], brawler.ram? view = none := by decide +kernel
  have charging : ¬ (watch (.scripted brawler 0) [near]).spentMs + near.dtMs < ramWindupMs := by
    decide +kernel
  have cycle := (scripted_ram_cycle brawler [near]).2.2.2 near [far] near way way rams close
    waits rams close (by decide +kernel)
  exact ⟨⟨rams, charging⟩, fun again => cycle ⟨⟨rams, charging⟩, again⟩⟩

end RobotCombat
