/-
# RobotCombat.Proofs.Match.Lifecycle — sessions from one match to the next

A session is used by calls in any order. Whatever they are, its match has been played from
the session's own roster (`performAll_paced`), and that roster stands still from the first
frame until the match is dropped (`started_performAll`). A refused fighter changes nothing,
and neither does a record that is not there yet (`takeResult_cases`).

A session that was reset is a new one but for its subscribers. These hear what goes on and
steer nothing: sessions that differ in their subscribers alone stay so and give the same
answers, what is told apart (`SameUnheard.performAll`).

* `session_lifecycle`: the rules of a session, for every order of calls.
-/
import RobotCombat.Proofs.Match.Pacing

namespace RobotCombat

set_option autoImplicit false

theorem Battle.steps_roster (n : Nat) (b : Battle) : (Battle.steps n b).roster = b.roster :=
  Battle.steps_invariant (P := fun b' => b'.roster = b.roster)
    (fun b' _ same => b'.tickOnce_roster.trans same) n rfl

namespace Session

variable {c : Catalog} {a : Arena} {m : MatchConfig} {n : Nat} {s s' : Session}

/-! ## Taking the record -/

/-- The record of a finished match is given away and the session emptied; otherwise there is
none and nothing changes. -/
theorem takeResult_cases (s : Session) :
    (s.isFinished = true ∧ ∃ b, s.battle = some b ∧ s.takeResult = (some b.result, s.reset)) ∨
      (s.isFinished = false ∧ s.takeResult = (none, s)) := by
  unfold isFinished takeResult
  cases s.battle with
  | none => exact .inr ⟨rfl, rfl⟩
  | some b =>
      dsimp only
      cases ended : b.isFinished with
      | true => exact .inl ⟨rfl, b, rfl, if_pos rfl⟩
      | false => exact .inr ⟨rfl, if_neg (by decide)⟩

/-! ## Whatever the calls -/

theorem performAll_cons (s : Session) (call : Call) (calls : List Call) :
    s.performAll (call :: calls) =
      (((s.perform call).1.performAll calls).1,
        (s.perform call).2 :: ((s.perform call).1.performAll calls).2) := rfl

theorem Paced.reset (paced : s.Paced c a m n) : s.reset.Paced c a m 0 where
  catalog := paced.catalog
  arena := paced.arena
  config := paced.config
  roster := .empty
  unstarted := fun _ => rfl
  played := fun impossible => by cases impossible
  going := fun impossible => by cases impossible

theorem Paced.anyCall (paced : s.Paced c a m n) (call : Call) :
    ∃ k, (s.perform call).1.Paced c a m k := by
  cases keeping : call.keepsMatch with
  | true => exact ⟨_, paced.perform keeping⟩
  | false =>
      cases call with
      | reset => exact ⟨0, paced.reset⟩
      | takeResult =>
          have after : (s.perform .takeResult).1 = s.takeResult.2 := rfl
          rcases s.takeResult_cases with ⟨-, b, -, taken⟩ | ⟨-, untaken⟩
          · rw [after, taken]
            exact ⟨0, paced.reset⟩
          · rw [after, untaken]
            exact ⟨n, paced⟩
      | _ => cases keeping

/-- After any calls the match of a session has been played from its roster. -/
theorem Paced.anyCalls :
    ∀ (calls : List Call) {n : Nat} {s : Session}, s.Paced c a m n →
      ∃ k, (s.performAll calls).1.Paced c a m k
  | [], n, _, paced => ⟨n, paced⟩
  | call :: calls, _, _, paced => by
      obtain ⟨k, first⟩ := paced.anyCall call
      exact anyCalls calls first

theorem performAll_paced (c : Catalog) (arenaId : String) (m : MatchConfig) (calls : List Call) :
    ∃ n, ((new c arenaId m).performAll calls).1.Paced c (c.arenaOrFallback arenaId) m n :=
  (new_paced c arenaId m).anyCalls calls

/-- The roster of the match is that of the session. -/
theorem Paced.sameRoster (paced : s.Paced c a m n) {b : Battle} (started : s.battle = some b) :
    b.roster = s.roster := by
  rw [paced.played started, Battle.steps_roster]
  rfl

/-! ## A roster that stands still -/

/-- A match that has started stays in the session with its roster, unless a call resets the
session or takes the record. -/
theorem started_perform {b : Battle} (started : s.battle = some b) {call : Call}
    (unreset : call ≠ .reset)
    (untaken : ∀ record, (s.perform call).2 ≠ .took (some record)) :
    (s.perform call).1.roster = s.roster ∧ ∃ b', (s.perform call).1.battle = some b' := by
  cases call with
  | enter f spawn =>
      unfold perform
      dsimp only
      rw [addFighter_of_started started]
      exact ⟨rfl, b, started⟩
  | tick deltaMs =>
      show (s.tick deltaMs).session.roster = _ ∧ ∃ b', (s.tick deltaMs).session.battle = some b'
      unfold tick
      split
      · exact ⟨rfl, b, started⟩
      · exact ⟨rfl, _, rfl⟩
  | pause | resume | subscribeStates | subscribeDamage => exact ⟨rfl, b, started⟩
  | reset => exact absurd rfl unreset
  | takeResult =>
      have answer : (s.perform .takeResult).2 = .took s.takeResult.1 := rfl
      have after : (s.perform .takeResult).1 = s.takeResult.2 := rfl
      rcases s.takeResult_cases with ⟨-, b', -, taken⟩ | ⟨-, none⟩
      · exact absurd (answer.trans (by rw [taken])) (untaken b'.result)
      · rw [after, none]
        exact ⟨rfl, b, started⟩

theorem started_performAll :
    ∀ (calls : List Call) {s : Session} {b : Battle}, s.battle = some b → Call.reset ∉ calls →
      (∀ record, Answer.took (some record) ∉ (s.performAll calls).2) →
      (s.performAll calls).1.roster = s.roster ∧ ∃ b', (s.performAll calls).1.battle = some b'
  | [], _, b, started, _, _ => ⟨rfl, b, started⟩
  | call :: calls, s, b, started, unreset, untaken => by
      have here : ∀ record, (s.perform call).2 ≠ .took (some record) := by
        intro record same
        exact untaken record (same ▸ List.mem_cons_self)
      obtain ⟨roster, b', first⟩ :=
        started_perform started (fun same => unreset (same ▸ List.mem_cons_self)) here
      obtain ⟨later, last⟩ := started_performAll calls first
        (fun member => unreset (List.mem_cons_of_mem call member))
        (fun record member => untaken record (List.mem_cons_of_mem _ member))
      exact ⟨later.trans roster, last⟩

/-! ## Entering -/

/-- A refused fighter changes nothing. -/
theorem perform_of_refused {f : Build} {spawn : Vector2} {e : EntryError}
    (refused : (s.perform (.enter f spawn)).2 = .refused e) :
    (s.perform (.enter f spawn)).1 = s := by
  unfold perform at refused ⊢
  dsimp only at refused ⊢
  cases answer : s.addFighter f spawn with
  | ok after =>
      rw [answer] at refused
      cases refused
  | error _ => rfl

/-- Before the match a fighter is entered as the roster takes it. -/
theorem perform_enter (unstarted : s.battle = none) (f : Build) (spawn : Vector2) :
    s.perform (.enter f spawn) =
      match s.roster.add f spawn s.catalog with
      | .ok r => ({ s with roster := r }, .entered s.roster.size)
      | .error e => (s, .refused e) := by
  unfold perform
  dsimp only
  rw [addFighter_of_unstarted unstarted]
  cases s.roster.add f spawn s.catalog <;> rfl

/-- A session takes a fighter or names the first reason against it: the match, then the
number of fighters, then the id. -/
theorem enter_cases (s : Session) (f : Build) (spawn : Vector2) :
    let answer := (s.perform (.enter f spawn)).2
    let taken := ∃ e ∈ s.roster.entrants, e.id = f.id
    (s.isStarted = true → answer = .refused (.alreadyStarted f.id)) ∧
    (s.isStarted = false → Roster.capacity ≤ s.roster.size →
      answer = .refused (.rosterFull s.roster.size)) ∧
    (s.isStarted = false → s.roster.size < Roster.capacity → taken →
      answer = .refused (.duplicateId f.id)) ∧
    (s.isStarted = false → s.roster.size < Roster.capacity → ¬ taken →
      s.perform (.enter f spawn) =
        ({ s with roster := ⟨s.roster.entrants ++ [.of f spawn s.catalog]⟩ },
          .entered s.roster.size)) := by
  intro answer taken
  rcases Option.eq_none_or_eq_some s.battle with unstarted | ⟨b, started⟩
  · have waiting : s.isStarted = false := by
      rw [isStarted, unstarted]
      rfl
    refine ⟨by simp [waiting], fun _ full => ?_, fun _ room present => ?_, fun _ room free => ?_⟩
    · simp only [answer, perform_enter unstarted, Roster.add, if_pos full]
    · have place : (s.roster.place? f.id).isSome = true := by
        rw [Option.isSome_iff_ne_none, ne_eq, Roster.place?_eq_none_iff]
        simpa [taken] using present
      simp only [answer, perform_enter unstarted, Roster.add, if_neg (Nat.not_le.mpr room),
        if_pos place]
    · have added : s.roster.add f spawn s.catalog =
          .ok ⟨s.roster.entrants ++ [.of f spawn s.catalog]⟩ :=
        Roster.add_eq_ok_iff.mpr ⟨room, by simpa [taken] using free, rfl⟩
      simp only [perform_enter unstarted, added]
  · have refused : answer = .refused (.alreadyStarted f.id) := by
      simp only [answer, perform, addFighter_of_started started]
    have playing : s.isStarted = true := by
      rw [isStarted, started]
      rfl
    exact ⟨fun _ => refused, by simp [playing], by simp [playing], by simp [playing]⟩

/-! ## Subscribers steer nothing -/

/-- The session without its subscribers. -/
def unheard (s : Session) : Session := { s with tellsStates := false, tellsDamage := false }

/-- What a call returns, without what subscribers hear meanwhile. -/
def Answer.returned : Answer → Answer
  | .ran ticks _ => .ran ticks []
  | answer => answer

/-- Where a frame has got to, whatever it told. -/
def Progress.unheard (p : Progress) : Progress := { p with told := [] }

theorem Progress.unheard_run (tellsStates tellsDamage tellsStates' tellsDamage' : Bool) :
    ∀ (bound : Nat) {p p' : Progress}, p.unheard = p'.unheard →
      (run tellsStates tellsDamage bound p).unheard =
        (run tellsStates' tellsDamage' bound p').unheard
  | 0, _, _, same => same
  | bound + 1, p, p', same => by
      obtain ⟨battle, leftMs, ticks, told⟩ := p
      obtain ⟨battle', leftMs', ticks', told'⟩ := p'
      simp only [unheard, Progress.mk.injEq, and_true] at same
      obtain ⟨rfl, rfl, rfl⟩ := same
      rw [run, run]
      split
      · rfl
      · split
        · rfl
        · split
          · exact unheard_run _ _ _ _ bound rfl
          · rfl

/-- A frame does the same without subscribers. -/
theorem unheard_tick (s : Session) (deltaMs : Float32) :
    (s.unheard.tick deltaMs).session.unheard = (s.tick deltaMs).session.unheard ∧
      (s.unheard.tick deltaMs).ticks = (s.tick deltaMs).ticks := by
  have idle : (s.unheard.paused || s.unheard.isFinished) = (s.paused || s.isFinished) := rfl
  have playing : s.unheard.battleOrStart = s.battleOrStart := rfl
  unfold tick
  rw [idle, playing]
  split
  · exact ⟨rfl, rfl⟩
  · have begins : Progress.unheard
          ⟨s.battleOrStart, s.unheard.accumulatedMs + frameMs deltaMs, 0, []⟩ =
        Progress.unheard ⟨s.battleOrStart, s.accumulatedMs + frameMs deltaMs, 0, []⟩ := rfl
    have same := Progress.unheard_run s.unheard.tellsStates s.unheard.tellsDamage s.tellsStates
      s.tellsDamage (max 1 (s.battleOrStart.config.maxTicks - s.battleOrStart.tick)) begins
    dsimp only
    revert same
    generalize Progress.run s.unheard.tellsStates s.unheard.tellsDamage _ _ = p
    generalize Progress.run s.tellsStates s.tellsDamage _ _ = p'
    intro same
    simp only [Progress.unheard, Progress.mk.injEq, and_true] at same
    obtain ⟨battle, leftMs, ticks⟩ := same
    simp only [unheard, battle, leftMs, ticks, and_self]

/-- So does every call. -/
theorem unheard_perform (s : Session) (call : Call) :
    (s.unheard.perform call).1.unheard = (s.perform call).1.unheard ∧
      (s.unheard.perform call).2.returned = (s.perform call).2.returned := by
  cases call with
  | enter f spawn =>
      have roster : s.unheard.roster = s.roster := rfl
      have catalog : s.unheard.catalog = s.catalog := rfl
      cases started : s.battle with
      | some b =>
          unfold perform
          dsimp only
          rw [addFighter_of_started started, addFighter_of_started (s := s.unheard) started]
          exact ⟨rfl, rfl⟩
      | none =>
          rw [perform_enter started, perform_enter (s := s.unheard) started, roster, catalog]
          cases s.roster.add f spawn s.catalog <;> exact ⟨rfl, rfl⟩
  | tick deltaMs =>
      obtain ⟨session, ticks⟩ := s.unheard_tick deltaMs
      exact ⟨session, congrArg (Answer.ran · []) ticks⟩
  | pause | resume | subscribeStates | subscribeDamage | reset => exact ⟨rfl, rfl⟩
  | takeResult =>
      have before : s.unheard.battle = s.battle := rfl
      unfold perform takeResult
      dsimp only
      rw [before]
      cases s.battle with
      | none => exact ⟨rfl, rfl⟩
      | some b =>
          dsimp only
          split <;> exact ⟨rfl, rfl⟩

/-- Sessions that are the same but for their subscribers stay so, and their calls return the
same. -/
theorem unheard_performAll :
    ∀ (calls : List Call) {s s' : Session}, s.unheard = s'.unheard →
      (s.performAll calls).1.unheard = (s'.performAll calls).1.unheard ∧
        (s.performAll calls).2.map Answer.returned = (s'.performAll calls).2.map Answer.returned
  | [], _, _, same => ⟨same, rfl⟩
  | call :: calls, s, s', same => by
      have first := s.unheard_perform call
      have first' := s'.unheard_perform call
      rw [same] at first
      obtain ⟨last, answers⟩ := unheard_performAll calls (first.1.symm.trans first'.1)
      rw [performAll_cons, performAll_cons]
      refine ⟨last, ?_⟩
      rw [List.map_cons, List.map_cons, answers, first.2.symm.trans first'.2]

/-! ## The rules -/

/-- The rules of a session that any calls have led to. It has at most two fighters, of
different ids. A match is that of the session's roster, and the roster stays until a call
resets the session or takes the record. A fighter is refused without a change, with the
match, the number of fighters and the id as reasons in this order. The record is there
exactly when the match is finished, and asking for it before changes nothing. After a reset,
and when the record has been taken, the session is a new one but for its subscribers: all
further calls return the same and lead to the same, what is told apart. -/
theorem session_lifecycle (c : Catalog) (arenaId : String) (m : MatchConfig)
    (calls : List Call) :
    let fresh := new c arenaId m
    let s := (fresh.performAll calls).1
    (s.roster.size ≤ 2 ∧ (s.roster.entrants.map Entrant.id).Nodup) ∧
    (∀ b, s.battle = some b → b.roster = s.roster ∧
      ∀ later, Call.reset ∉ later →
        (∀ record, Answer.took (some record) ∉ (s.performAll later).2) →
        let after := (s.performAll later).1
        after.roster = s.roster ∧ ∃ b', after.battle = some b' ∧ b'.roster = s.roster) ∧
    (∀ f spawn,
      let after := (s.perform (.enter f spawn)).1
      let answer := (s.perform (.enter f spawn)).2
      let taken := ∃ e ∈ s.roster.entrants, e.id = f.id
      (∀ e, answer = .refused e → after = s) ∧
      (s.isStarted = true → answer = .refused (.alreadyStarted f.id)) ∧
      (s.isStarted = false → s.roster.size = 2 → answer = .refused (.rosterFull 2)) ∧
      (s.isStarted = false → s.roster.size < 2 → taken →
        answer = .refused (.duplicateId f.id)) ∧
      (s.isStarted = false → s.roster.size < 2 → ¬ taken →
        answer = .entered s.roster.size ∧
          after = { s with roster := ⟨s.roster.entrants ++ [.of f spawn c]⟩ })) ∧
    ((∃ record, s.takeResult.1 = some record) ↔ s.isFinished = true) ∧
    (s.isFinished = false → s.takeResult.2 = s) ∧
    (∀ after, (after = s.reset ∨ ∃ record, s.takeResult = (some record, after)) →
      after = { fresh with tellsStates := s.tellsStates, tellsDamage := s.tellsDamage } ∧
      ∀ later,
        (after.performAll later).2.map Answer.returned =
          (fresh.performAll later).2.map Answer.returned ∧
        (after.performAll later).1.unheard = (fresh.performAll later).1.unheard) := by
  intro fresh s
  obtain ⟨n, paced⟩ : ∃ n, s.Paced c (c.arenaOrFallback arenaId) m n :=
    performAll_paced c arenaId m calls
  have again : s.reset =
      { fresh with tellsStates := s.tellsStates, tellsDamage := s.tellsDamage } := by
    simp only [Session.reset, paced.catalog, paced.arena, paced.config]
    rfl
  refine ⟨⟨paced.roster.size_le, paced.roster.distinct⟩, ?_, ?_, ?_, ?_, ?_⟩
  · intro b started
    refine ⟨paced.sameRoster started, fun later unreset untaken => ?_⟩
    obtain ⟨roster, b', last⟩ := started_performAll later started unreset untaken
    obtain ⟨k, onward⟩ := paced.anyCalls later
    exact ⟨roster, b', last, (onward.sameRoster last).trans roster⟩
  · intro f spawn
    obtain ⟨late, full, present, free⟩ := s.enter_cases f spawn
    refine ⟨fun e => perform_of_refused, late, fun waiting two => ?_, present, ?_⟩
    · rw [full waiting two.ge, two]
    · intro waiting room absent
      rw [free waiting room absent, paced.catalog]
      exact ⟨rfl, rfl⟩
  · rcases s.takeResult_cases with ⟨ended, b, -, taken⟩ | ⟨going, none⟩
    · simp [ended, taken]
    · simp [going, none]
  · intro going
    rcases s.takeResult_cases with ⟨ended, -⟩ | ⟨-, none⟩
    · rw [going] at ended
      cases ended
    · rw [none]
  · intro after dropped
    have emptied : after = s.reset := by
      rcases dropped with same | ⟨record, same⟩
      · exact same
      · rcases s.takeResult_cases with ⟨-, b, -, taken⟩ | ⟨-, untaken⟩
        · exact congrArg Prod.snd (same.symm.trans taken)
        · cases same.symm.trans untaken
    rw [emptied]
    refine ⟨again, fun later => ?_⟩
    have same : s.reset.unheard = fresh.unheard := by
      rw [again]
      rfl
    exact (unheard_performAll later same).symm

end Session

end RobotCombat
