/-
# RobotCombat.Proofs.Script.Cuts — the pieces of a text that goes on

`splitAnd` goes through a text from its front and looks at the word behind each blank. So
the pieces of a text and those of a longer one differ in one place only, where the one ends:

* `splitAnd_join`: a connecting word between blanks is a cut;
* `splitAnd_last_word`: a last word stays with the last piece;
* `splitAnd_concat_blank`: a blank at the end goes to the last piece, or is one itself after
  a connecting word.

`words_induction` is the induction that they follow.
-/
import RobotCombat.Proofs.Text.Words
import RobotCombat.Script.Parser

namespace RobotCombat.Script

set_option autoImplicit false

open Text

/-- Whether a word connects two conditions. -/
def Connects (word : List Char) : Prop := sameLetters word "AND".toList = true

instance (word : List Char) : Decidable (Connects word) :=
  inferInstanceAs (Decidable (sameLetters word "AND".toList = true))

/-- A text is cut from its front: at a character, or behind the word that follows it. -/
theorem words_induction {P : List Char → Prop} (nil : P [])
    (cons : ∀ c rest, P rest → P (rest.dropWhile fun c => !isBlank c) → P (c :: rest)) :
    ∀ text, P text
  | [] => nil
  | c :: rest =>
      cons c rest (words_induction nil cons rest)
        (words_induction nil cons (rest.dropWhile fun c => !isBlank c))
termination_by text => text.length
decreasing_by
  · simp
  · exact Nat.lt_succ_of_le (List.dropWhile_suffix _).length_le

variable {b : Char} (blank : isBlank b = true)

include blank in
/-- The first word of a text with a blank in it does not depend on what follows the blank. -/
theorem span_blank (front more : List Char) :
    (front ++ b :: more).takeWhile (fun c => !isBlank c) = front.takeWhile (fun c => !isBlank c) ∧
      (front ++ b :: more).dropWhile (fun c => !isBlank c) =
        front.dropWhile (fun c => !isBlank c) ++ b :: more := by
  induction front with
  | nil => simp [blank]
  | cons c front ih =>
      obtain ⟨taken, dropped⟩ := ih
      cases solid : isBlank c <;> simp [solid, taken, dropped]

include blank in
theorem splitAnd_cons_blank (c : Char) (rest more : List Char) :
    splitAnd (c :: (rest ++ b :: more)) =
      if isBlank c && sameLetters (rest.takeWhile fun c => !isBlank c) "AND".toList then
        [c] :: splitAnd (rest.dropWhile (fun c => !isBlank c) ++ b :: more)
      else consFirst c (splitAnd (rest ++ b :: more)) := by
  obtain ⟨taken, dropped⟩ := span_blank blank rest more
  rw [splitAnd]
  simp only [taken, dropped]
  simp

theorem splitAnd_ne_nil (text : List Char) : splitAnd text ≠ [] := by
  fun_induction splitAnd text with
  | case1 => simp
  | case2 => simp
  | case3 c rest _ _ _ ih =>
      obtain ⟨piece, pieces, pieced⟩ := List.exists_cons_of_ne_nil ih
      simp [pieced, consFirst]

theorem consFirst_append (c : Char) {pieces : List (List Char)} (some : pieces ≠ [])
    (more : List (List Char)) :
    consFirst c (pieces ++ more) = consFirst c pieces ++ more := by
  obtain ⟨piece, pieces, rfl⟩ := List.exists_cons_of_ne_nil some
  rfl

/-- A word in front of a text belongs to its first piece. -/
theorem splitAnd_word_append {word : List Char} (solid : ∀ c ∈ word, isBlank c = false)
    {text piece : List Char} {pieces : List (List Char)}
    (pieced : splitAnd text = piece :: pieces) :
    splitAnd (word ++ text) = (word ++ piece) :: pieces := by
  induction word with
  | nil => exact pieced
  | cons c word ih =>
      have later := ih fun d member => solid d (List.mem_cons_of_mem c member)
      rw [List.cons_append, splitAnd]
      simp only [solid c List.mem_cons_self, Bool.false_and, Bool.false_eq_true, if_false]
      rw [later]
      rfl

theorem splitAnd_word {word : List Char} (solid : ∀ c ∈ word, isBlank c = false) :
    splitAnd word = [word] := by
  have nothing : splitAnd [] = [[]] := by rw [splitAnd]
  simpa using splitAnd_word_append solid nothing

/-- The first piece starts as the text does. -/
theorem head?_of_splitAnd {text piece : List Char} {pieces : List (List Char)}
    (pieced : splitAnd text = piece :: pieces) : ∀ c ∈ piece.head?, c ∈ text.head? := by
  cases text with
  | nil =>
      rw [splitAnd] at pieced
      obtain ⟨rfl, -⟩ := List.cons.inj pieced
      simp
  | cons d rest =>
      rw [splitAnd] at pieced
      split at pieced
      · obtain ⟨rfl, -⟩ := List.cons.inj pieced
        simp
      · obtain ⟨first, later, split⟩ := List.exists_cons_of_ne_nil (splitAnd_ne_nil rest)
        rw [split] at pieced
        obtain ⟨rfl, -⟩ := List.cons.inj pieced
        simp

theorem splitAnd_single (c : Char) : splitAnd [c] = [[c]] := by
  rw [splitAnd]
  simp [splitAnd, consFirst, sameLetters, lower]

include blank in
/-- A connecting word between blanks is a cut. -/
theorem splitAnd_join {word after : List Char} (solid : ∀ c ∈ word, isBlank c = false)
    (connects : Connects word) (stops : ∀ c ∈ after.head?, isBlank c = true)
    (more : after ≠ []) (front : List Char) :
    splitAnd (front ++ b :: (word ++ after)) = splitAnd (front ++ [b]) ++ splitAnd after := by
  induction front using words_induction with
  | nil =>
      obtain ⟨taken, dropped⟩ : (word ++ after).takeWhile (fun c => !isBlank c) = word ∧
          (word ++ after).dropWhile (fun c => !isBlank c) = after :=
        span_append (by simpa using solid) (by simpa using stops)
      rw [List.nil_append, List.nil_append, splitAnd_single, splitAnd]
      simp only [taken, dropped, blank, show sameLetters word "AND".toList = true from connects,
        List.isEmpty_eq_false_iff.mpr more]
      rfl
  | cons c rest next skipped =>
      rw [List.cons_append, List.cons_append, splitAnd_cons_blank blank,
        splitAnd_cons_blank blank]
      split
      · rw [skipped]
        rfl
      · rw [next, consFirst_append c (splitAnd_ne_nil _)]

/-- What is put in front of two lists of pieces alike goes to their common first piece. -/
theorem consFirst_snoc (c : Char) (pieces : List (List Char)) (last : List Char) :
    ∃ pieces' start, ∀ more : List Char, ∀ later : List (List Char),
      consFirst c (pieces ++ (last ++ more) :: later) = pieces' ++ (start ++ more) :: later := by
  cases pieces with
  | nil => exact ⟨[], c :: last, fun _ _ => rfl⟩
  | cons piece pieces => exact ⟨(c :: piece) :: pieces, last, fun _ _ => rfl⟩

include blank in
/-- A last word is no cut: it stays with the last piece. -/
theorem splitAnd_last_word {word : List Char} (solid : ∀ c ∈ word, isBlank c = false)
    (front : List Char) :
    ∃ pieces last, splitAnd (front ++ [b]) = pieces ++ [last ++ [b]] ∧
      splitAnd (front ++ b :: word) = pieces ++ [last ++ b :: word] := by
  induction front using words_induction with
  | nil =>
      refine ⟨[], [], splitAnd_single b, ?_⟩
      have dropped : (word ++ []).dropWhile (fun c => !isBlank c) = [] :=
        (span_append (by simpa using solid) (by simp)).2
      rw [List.append_nil] at dropped
      rw [List.nil_append, splitAnd]
      simp only [dropped, List.isEmpty_nil, Bool.not_true, Bool.and_false, Bool.false_eq_true,
        if_false, splitAnd_word solid]
      rfl
  | cons c rest next skipped =>
      rw [List.cons_append, List.cons_append, splitAnd_cons_blank blank,
        splitAnd_cons_blank blank]
      split
      · obtain ⟨pieces, last, without, together⟩ := skipped
        exact ⟨[c] :: pieces, last, by rw [without]; rfl, by rw [together]; rfl⟩
      · obtain ⟨pieces, last, without, together⟩ := next
        obtain ⟨pieces', start, front⟩ := consFirst_snoc c pieces last
        exact ⟨pieces', start, by rw [without, front], by rw [together, front]⟩

include blank in
/-- A blank at the end goes to the last piece, or makes a piece of its own after a word that
is no longer the last one. -/
theorem splitAnd_concat_blank (text : List Char) :
    ∃ pieces last, splitAnd text = pieces ++ [last] ∧
      (splitAnd (text ++ [b]) = pieces ++ [last ++ [b]] ∨
        ∃ piece, splitAnd (text ++ [b]) = pieces ++ [piece, [b]]) := by
  induction text using words_induction with
  | nil => exact ⟨[], [], by rw [splitAnd]; rfl, .inl (splitAnd_single b)⟩
  | cons c rest next skipped =>
      have together := splitAnd_cons_blank blank c rest []
      rw [List.cons_append, together, splitAnd]
      by_cases cut : (isBlank c && sameLetters (rest.takeWhile fun c => !isBlank c)
          "AND".toList) = true
      · rw [if_pos cut]
        by_cases ended : rest.dropWhile (fun c => !isBlank c) = []
        · -- the last word becomes a cut
          have whole : rest.takeWhile (fun c => !isBlank c) = rest := by
            have parts := List.takeWhile_append_dropWhile (p := fun c => !isBlank c) (l := rest)
            rwa [ended, List.append_nil] at parts
          have solid : ∀ d ∈ rest, isBlank d = false := by
            intro d member
            rw [← whole] at member
            simpa using mem_takeWhile d member
          refine ⟨[], c :: rest, ?_, .inr ⟨[c], ?_⟩⟩
          · simp [ended, splitAnd_word solid, consFirst]
          · rw [ended, List.nil_append, splitAnd_single]
            rfl
        · obtain ⟨pieces, last, without, more⟩ := skipped
          refine ⟨[c] :: pieces, last, ?_, ?_⟩
          · simp only [cut, List.isEmpty_eq_false_iff.mpr ended]
            simp [without]
          · rcases more with kept | ⟨piece, own⟩
            · exact .inl (by rw [kept]; rfl)
            · exact .inr ⟨piece, by rw [own]; rfl⟩
      · rw [if_neg cut]
        obtain ⟨pieces, last, without, more⟩ := next
        have uncut : ∀ x : Bool, (isBlank c && sameLetters (rest.takeWhile fun c => !isBlank c)
            "AND".toList && x) = false := by simp_all
        simp only [uncut, Bool.false_eq_true, if_false, without]
        cases pieces with
        | nil =>
            refine ⟨[], c :: last, rfl, ?_⟩
            rcases more with kept | ⟨piece, own⟩
            · exact .inl (by rw [kept]; rfl)
            · exact .inr ⟨c :: piece, by rw [own]; rfl⟩
        | cons first pieces =>
            refine ⟨(c :: first) :: pieces, last, rfl, ?_⟩
            rcases more with kept | ⟨piece, own⟩
            · exact .inl (by rw [kept]; rfl)
            · exact .inr ⟨piece, by rw [own]; rfl⟩

end RobotCombat.Script
