/-
# RobotCombat.Proofs.Script.Conditions — conditions are read as the grammar says

A condition is cut at its separating words, and each piece is a fact alone or a
comparison. The readers of both answer with a meaning exactly if the grammar gives
that meaning to the text.

* `readClause_eq_ok_iff`: a piece of a condition;
* `cut_iff`: `splitAnd` finds the one way to cut a condition;
* `readCondition_eq_ok_iff`: a condition, clause by clause.
-/
import Mathlib.Data.List.Nodup
import RobotCombat.Proofs.Script.Grammar

namespace RobotCombat.Script

set_option autoImplicit false

open Text

/-! ## Names -/

/-- A table of words that differ by more than letter case is searched by letters. -/
theorem find?_sameLetters {α : Type} (name : α → List Char) {all : List α}
    (distinct : (all.map fun x => lower (name x)).Nodup) {x : α} (listed : x ∈ all)
    {word : List Char} :
    (all.find? fun x => sameLetters (name x) word) = some x ↔
      sameLetters (name x) word = true := by
  constructor
  · exact fun found => List.find?_some (p := fun x => sameLetters (name x) word) found
  · intro same
    cases found : all.find? fun x => sameLetters (name x) word with
    | none => exact absurd same (List.find?_eq_none.mp found x listed)
    | some y =>
        have same' : sameLetters (name y) word = true :=
          List.find?_some (p := fun x => sameLetters (name x) word) found
        rw [sameLetters_iff] at same same'
        rw [List.inj_on_of_nodup_map distinct (List.mem_of_find?_eq_some found) listed
          (same'.trans same.symm)]

theorem Action.ofWord?_eq_some_iff {word : List Char} {a : Action} :
    Action.ofWord? word = some a ↔ a.Names word :=
  find?_sameLetters (fun a : Action => a.name.toList) (by decide) (by cases a <;> decide)

theorem Variable.ofWord?_eq_some_iff {word : List Char} {v : Variable} :
    Variable.ofWord? word = some v ↔ v.Names word :=
  find?_sameLetters (fun v : Variable => v.name.toList) (by decide) (by cases v <;> decide)

/-- What differs from a word in letter case only is a word. -/
theorem isWord_of_sameLetters {word name : List Char} (same : sameLetters name word = true)
    (isName : isWord name = true) : isWord word = true := by
  simp only [isWord, Bool.and_eq_true, Bool.not_eq_true', List.isEmpty_eq_false_iff,
    List.all_eq_true] at isName ⊢
  refine ⟨fun empty => isName.1 ?_, isWordChar_of_sameLetters (sameLetters_comm same) isName.2⟩
  simpa [empty] using length_of_sameLetters same

theorem Action.Names.isWord {word : List Char} {a : Action} (named : a.Names word) :
    isWord word = true :=
  isWord_of_sameLetters named (by cases a <;> decide)

theorem Variable.Names.isWord {word : List Char} {v : Variable} (named : v.Names word) :
    isWord word = true :=
  isWord_of_sameLetters named (by cases v <;> decide)

/-! ## Comparisons -/

theorem splitOperator?_eq_none {text : List Char} (nothing : splitOperator? text = none) :
    ∀ o : Operator, ¬ o.symbol <+: text := by
  rintro o ⟨rest, rfl⟩
  unfold splitOperator? at nothing
  split at nothing <;> simp at nothing
  cases o <;> simp_all [Operator.symbol]

/-- The longer comparisons are looked for first. -/
theorem starts_of_splitOperator? {text rest : List Char} {o : Operator}
    (found : splitOperator? text = some (o, rest)) : text = o.symbol ++ rest ∧ o.Starts text := by
  unfold splitOperator? at found
  split at found <;> simp only [Option.some.injEq, Prod.mk.injEq, reduceCtorEq] at found
  all_goals
    obtain ⟨rfl, rfl⟩ := found
    refine ⟨rfl, ⟨_, rfl⟩, ?_⟩
    rintro o' ⟨tail, same⟩
    replace same := same.symm
    cases o' <;> simp_all [Operator.symbol]

theorem Operator.symbol_injective {o o' : Operator} (same : o.symbol = o'.symbol) : o = o' := by
  cases o <;> cases o' <;> simp_all [Operator.symbol]

/-- The comparison that a text starts with is found, and what follows it. -/
theorem splitOperator?_of_starts {o : Operator} {rest : List Char}
    (starts : o.Starts (o.symbol ++ rest)) :
    splitOperator? (o.symbol ++ rest) = some (o, rest) := by
  cases found : splitOperator? (o.symbol ++ rest) with
  | none => exact absurd starts.1 (splitOperator?_eq_none found o)
  | some split =>
      obtain ⟨o', rest'⟩ := split
      obtain ⟨same, starts'⟩ := starts_of_splitOperator? found
      have length : o.symbol.length = o'.symbol.length :=
        Nat.le_antisymm (starts'.2 o starts.1) (starts.2 o' starts'.1)
      obtain ⟨symbols, rests⟩ := List.append_inj same length
      rw [Operator.symbol_injective symbols, rests]

theorem Operator.head_symbol (o : Operator) (rest : List Char) :
    ∀ c ∈ (o.symbol ++ rest).head?, isBlank c = false ∧ isWordChar c = false := by
  cases o <;> simp [Operator.symbol] <;> decide

/-! ## Clauses -/

/-- A name ends where something else than a word character follows. -/
theorem span_name {name rest : List Char} (word : isWord name = true)
    (stops : ∀ c ∈ rest.head?, isWordChar c = false) :
    name.isEmpty = false ∧ (name ++ rest).takeWhile isWordChar = name ∧
      (name ++ rest).dropWhile isWordChar = rest := by
  simp only [isWord, Bool.and_eq_true, Bool.not_eq_true', List.all_eq_true] at word
  exact ⟨word.1, span_append word.2 stops⟩

/-- A piece of a condition is read as the clause that it says. -/
theorem readClause_eq_ok_iff {piece : List Char} {clause : Clause} :
    readClause piece = .ok clause ↔ SaysClause piece clause := by
  constructor
  · intro read
    have parts : piece.takeWhile isWordChar ++ piece.dropWhile isWordChar = piece :=
      List.takeWhile_append_dropWhile
    simp only [readClause] at read
    generalize piece.takeWhile isWordChar = name at read parts
    generalize piece.dropWhile isWordChar = after at read parts
    split at read
    · cases read
    split at read
    · -- a fact alone
      split at read
      · rename_i v named _
        obtain rfl := Except.ok.inj read
        rw [List.append_nil] at parts
        exact parts ▸ .fact (Variable.ofWord?_eq_some_iff.mp named)
      · cases read
    · rename_i o rest found
      split at read
      · cases read
      rename_i present
      split at read
      · cases read
      rename_i v named
      obtain rfl := Except.ok.inj read
      obtain ⟨start, starts⟩ := starts_of_splitOperator? found
      rw [start] at starts
      have gap : after.takeWhile isBlank ++ (o.symbol ++ rest) = after := by
        rw [← start]
        exact List.takeWhile_append_dropWhile
      rw [← parts, ← gap, ← List.append_assoc]
      exact .comparison (Variable.ofWord?_eq_some_iff.mp named) mem_takeWhile starts
        (trims_trim rest) (by simpa using present)
  · intro meaning
    cases meaning with
    | @fact name v named =>
        have stops : ∀ c ∈ ([] : List Char).head?, isWordChar c = false := by simp
        obtain ⟨nonempty, taken, dropped⟩ := span_name named.isWord stops
        rw [List.append_nil] at taken dropped
        simp only [readClause, taken, dropped, nonempty, Variable.ofWord?_eq_some_iff.mpr named]
        rfl
    | @comparison name gap rest value v o named blanks longest trims present =>
        have stops : ∀ c ∈ (gap ++ (o.symbol ++ rest)).head?, isWordChar c = false := by
          cases gap with
          | nil => exact fun c first => (o.head_symbol rest c first).2
          | cons b gap =>
              have blank : isBlank b = true := blanks b List.mem_cons_self
              intro c first
              obtain rfl : b = c := by simpa using first
              by_contra word
              simp [isBlank_of_isWordChar (Bool.not_eq_false _ ▸ word)] at blank
        obtain ⟨nonempty, taken, dropped⟩ := span_name named.isWord stops
        have start : trimStart (gap ++ (o.symbol ++ rest)) = o.symbol ++ rest :=
          trimStart_append blanks fun c first => (o.head_symbol rest c first).1
        rw [List.append_assoc]
        simp only [readClause, taken, dropped, nonempty, start, splitOperator?_of_starts longest,
          trims.trim_eq, Variable.ofWord?_eq_some_iff.mpr named]
        simp [present]

/-! ## Conditions -/

/-- A character in front of a condition goes to its first piece, unless a separating
word starts there. -/
theorem Cut.cons {before rest : List Char} {c : Char} {pieces : List (List Char)}
    (cut : Cut (before ++ [c]) rest pieces)
    (start : ∀ k q, c :: rest = k ++ q → ¬ Separates before k q) :
    Cut before (c :: rest) (consFirst c pieces) := by
  cases cut with
  | whole uncut =>
      refine .whole ?_
      intro p k q same
      cases p with
      | nil => simpa using start k q (by simpa using same)
      | cons c' p =>
          obtain ⟨rfl, tail⟩ : c = c' ∧ rest = p ++ k ++ q := by simpa using same
          simpa using uncut p k q tail
  | @next _ piece keyword rest pieces separates uncut later =>
      refine @Cut.next before (c :: piece) keyword rest pieces (by simpa using separates) ?_
        (by simpa using later)
      intro p k q same
      cases p with
      | nil =>
          have whole : c :: (piece ++ (keyword ++ rest)) = k ++ (q ++ (keyword ++ rest)) := by
            simpa using congrArg (· ++ (keyword ++ rest)) same
          simpa using start k _ whole
      | cons c' p =>
          obtain ⟨rfl, tail⟩ : c = c' ∧ piece = p ++ k ++ q := by simpa using same
          simpa using uncut p k q tail

/-- A text is its first word and what follows that word. -/
theorem first_word (rest : List Char) :
    rest.takeWhile (fun c => !isBlank c) ++ rest.dropWhile (fun c => !isBlank c) = rest ∧
      (∀ c ∈ rest.takeWhile fun c => !isBlank c, isBlank c = false) ∧
      ∀ c ∈ (rest.dropWhile fun c => !isBlank c).head?, isBlank c = true := by
  refine ⟨List.takeWhile_append_dropWhile, ?_, ?_⟩
  · intro c member
    simpa using mem_takeWhile c member
  · intro c first
    simpa using head?_dropWhile c first

/-- A condition that ends in a word is cut at its separating words, when what stands
before it in the line has been looked at: no separating word starts at its front, and
a word has come or comes at once. -/
theorem cut_splitAnd {before text : List Char}
    (start : ∀ k q, text = k ++ q → ¬ Separates before k q)
    (begun : (∃ c ∈ before, isBlank c = false) ∨ ∀ c ∈ text.head?, isBlank c = false)
    (back : ∀ c ∈ text.getLast?, isBlank c = false) : Cut before text (splitAnd text) := by
  fun_induction splitAnd text generalizing before with
  | case1 =>
      refine .whole ?_
      intro p k q same separates
      simp only [List.nil_eq, List.append_eq_nil_iff] at same
      exact separates.word.nonempty same.1.2
  | case2 c rest word after separating =>
      rename_i ih
      obtain ⟨parts, solid, stops⟩ : word ++ after = rest ∧ _ := first_word rest
      change ∀ x ∈ word, isBlank x = false at solid
      change ∀ x ∈ after.head?, isBlank x = true at stops
      clear_value word after
      simp only [Bool.and_eq_true, Bool.not_eq_true', List.isEmpty_eq_false_iff] at separating
      obtain ⟨⟨blank, connects⟩, more⟩ := separating
      have nonempty : word ≠ [] := by
        intro empty
        simpa [empty] using length_of_sameLetters connects
      have spoken : ∃ x ∈ before, isBlank x = false := by
        rcases begun with spoken | atOnce
        · exact spoken
        · simp [blank] at atOnce
      have backAfter : ∀ x ∈ after.getLast?, isBlank x = false := by
        intro x last
        apply back x
        rw [← parts, ← List.cons_append, List.getLast?_append, Option.mem_def.mp last]
        rfl
      have separates : Separates (before ++ [c]) word after :=
        { word := ⟨nonempty, solid, by simpa using blank, stops⟩
          connects := connects
          notFirst := by
            obtain ⟨x, member, solid⟩ := spoken
            exact ⟨x, List.mem_append_left _ member, solid⟩
          notLast := by
            refine ⟨after.getLast more, List.getLast_mem more, backAfter _ ?_⟩
            exact List.getLast?_eq_some_getLast more }
      rw [← parts]
      refine @Cut.next before [c] word after _ separates ?_ (ih ?_ ?_ backAfter)
      · intro p k q same separates'
        -- a word within the blank before the cut
        have within : c ∈ k := by
          have one : p ++ k ++ q = [c] := same.symm
          rcases List.exists_mem_of_ne_nil k separates'.word.nonempty with ⟨x, member⟩
          have only : x ∈ [c] := one ▸ by simp [member]
          rwa [List.mem_singleton.mp only] at member
        simp [separates'.word.solid c within] at blank
      · intro k q same separates'
        -- the word before is over, but none begins directly after it
        have last := separates'.word.starts (word.getLast nonempty)
          (by rw [List.getLast?_append, List.getLast?_eq_some_getLast nonempty]; rfl)
        simp [solid _ (List.getLast_mem nonempty)] at last
      · obtain ⟨x, member, solid⟩ := spoken
        exact .inl ⟨x, by simp [member], solid⟩
  | case3 c rest word after inseparate =>
      rename_i ih
      obtain ⟨parts, solid, stops⟩ : word ++ after = rest ∧ _ := first_word rest
      refine (ih ?_ ?_ ?_).cons start
      · intro k q same separates
        -- a separating word at the front of the rest would have been found
        have blank : isBlank c = true := separates.word.starts c (by simp)
        obtain ⟨taken, dropped⟩ := separates.word.span
        rw [← same] at taken dropped
        apply inseparate
        obtain ⟨x, member, -⟩ := separates.notLast
        have more : q ≠ [] := List.ne_nil_of_mem member
        have connects := separates.connects
        simp_all [word, after]
      · cases blank : isBlank c with
        | false => exact .inl ⟨c, by simp, blank⟩
        | true =>
            rcases begun with ⟨x, member, solid⟩ | atOnce
            · exact .inl ⟨x, by simp [member], solid⟩
            · simp [blank] at atOnce
      · intro x last
        apply back x
        rw [List.getLast?_cons, Option.mem_def.mp last]
        rfl

/-- The pieces of a condition are those that its separating words leave. -/
theorem cut_iff {condition : List Char} (trimmed : Trimmed condition)
    {pieces : List (List Char)} : Cut [] condition pieces ↔ splitAnd condition = pieces := by
  have cut : Cut [] condition (splitAnd condition) :=
    cut_splitAnd (fun k q _ separates => by simpa using separates.notFirst)
      (.inr trimmed.front) trimmed.back
  exact ⟨fun cut' => cut.unique cut', fun same => same ▸ cut⟩

/-- What is read in two steps. -/
theorem bind_eq_ok_iff {ε α β : Type} {x : Except ε α} {f : α → Except ε β} {y : β} :
    (x >>= f) = .ok y ↔ ∃ a, x = .ok a ∧ f a = .ok y := by
  cases x <;> simp [bind, Except.bind]

theorem pure_eq_ok_iff {ε α : Type} {x y : α} : (pure x : Except ε α) = .ok y ↔ x = y := by
  simp [pure, Except.pure]

/-- Reading a list stops at the first problem and otherwise gives every result. -/
theorem mapM_eq_ok_iff {α β ε : Type} {f : α → Except ε β} {xs : List α} {ys : List β} :
    xs.mapM f = .ok ys ↔ List.Forall₂ (fun x y => f x = .ok y) xs ys := by
  induction xs generalizing ys with
  | nil => rw [List.mapM_nil, pure_eq_ok_iff, List.forall₂_nil_left_iff, eq_comm]
  | cons x xs ih =>
      rw [List.mapM_cons, List.forall₂_cons_left_iff]
      simp only [bind_eq_ok_iff, pure_eq_ok_iff, ih]
      constructor
      · rintro ⟨y, first, ys', later, rfl⟩
        exact ⟨y, ys', first, later, rfl⟩
      · rintro ⟨y, ys', first, later, rfl⟩
        exact ⟨y, first, ys', later, rfl⟩

/-- A condition is read as the clauses that it says. -/
theorem readCondition_eq_ok_iff {condition : List Char} (trimmed : Trimmed condition)
    {clauses : List Clause} :
    readCondition condition = .ok clauses ↔ SaysCondition condition clauses := by
  unfold readCondition SaysCondition
  rw [mapM_eq_ok_iff]
  have same : ∀ piece clause, readClause (trim piece) = .ok clause ↔
      ∃ text, Trims piece text ∧ SaysClause text clause := by
    intro piece clause
    simp [readClause_eq_ok_iff, ← trim_eq_iff]
  simp [cut_iff trimmed, same]

/-- Nothing is no condition. -/
theorem SaysCondition.nonempty {condition : List Char} {clauses : List Clause}
    (meaning : SaysCondition condition clauses) : condition ≠ [] := by
  rintro rfl
  obtain ⟨pieces, cut, said⟩ := meaning
  obtain rfl : [[]] = pieces := by simpa [splitAnd] using (cut_iff .nil).mp cut
  obtain ⟨clause, clauses, ⟨text, trims, said⟩, -, -⟩ := List.forall₂_cons_left_iff.mp said
  obtain rfl : [] = text := by simpa [trim, trimStart, trimEnd] using trims.trim_eq
  have read := readClause_eq_ok_iff.mpr said
  simp [readClause] at read

end RobotCombat.Script
