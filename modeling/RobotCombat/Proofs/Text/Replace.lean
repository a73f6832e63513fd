/-
# RobotCombat.Proofs.Text.Replace — replacing in a text of parts

`replace` looks for a key from left to right. Where no key reaches over the border between
two parts of a text, each part is dealt with by itself (`replace_append`), and a text without
the key in it stays as it is (`replace_of_absent`).
-/
import Mathlib.Data.List.Infix
import RobotCombat.Narration.Pool

namespace RobotCombat.Text

set_option autoImplicit false

variable {key : List Char}

/-- More steps than characters change nothing. -/
theorem replaceAll_steps (nonempty : key ≠ []) (value : List Char) :
    ∀ {steps steps' : Nat} {text : List Char}, text.length ≤ steps → text.length ≤ steps' →
      replaceAll key value steps text = replaceAll key value steps' text
  | 0, steps', [], _, _ => by cases steps' <;> rfl
  | _ + 1, steps', [], _, _ => by cases steps' <;> rfl
  | steps + 1, steps' + 1, c :: rest, enough, enough' => by
      have positive : 0 < key.length := List.length_pos_iff.mpr nonempty
      simp only [List.length_cons] at enough enough'
      unfold replaceAll
      split
      · have shorter : ((c :: rest).drop key.length).length ≤ rest.length := by
          rw [List.length_drop, List.length_cons]
          omega
        rw [replaceAll_steps nonempty value (shorter.trans (Nat.le_of_succ_le_succ enough))
          (shorter.trans (Nat.le_of_succ_le_succ enough'))]
      · rw [replaceAll_steps nonempty value (Nat.le_of_succ_le_succ enough)
          (Nat.le_of_succ_le_succ enough')]

@[simp] theorem replace_nil (key value : List Char) : replace key value [] = [] := rfl

/-- A key at the front is replaced; without one the first character stays. -/
theorem replace_cons (nonempty : key ≠ []) (value : List Char) (c : Char) (rest : List Char) :
    replace key value (c :: rest) =
      if key.isPrefixOf (c :: rest) then
        value ++ replace key value ((c :: rest).drop key.length)
      else c :: replace key value rest := by
  have positive : 0 < key.length := List.length_pos_iff.mpr nonempty
  have shorter : ((c :: rest).drop key.length).length ≤ rest.length := by
    rw [List.length_drop, List.length_cons]
    omega
  unfold replace
  rw [List.length_cons, replaceAll, replaceAll_steps nonempty value shorter (Nat.le_refl _)]

/-- No key begins in one text and ends in the next. -/
def Apart (key front back : List Char) : Prop :=
  ∀ p q, key = p ++ q → p ≠ [] → q ≠ [] → p <:+ front → ¬ q <+: back

theorem Apart.of_suffix {front front' back : List Char} (apart : Apart key front back)
    (suffix : front' <:+ front) : Apart key front' back :=
  fun p q whole some some' ends => apart p q whole some some' (ends.trans suffix)

/-- Texts apart are dealt with one by one. -/
theorem replace_append (nonempty : key ≠ []) (value : List Char) {front back : List Char}
    (apart : Apart key front back) :
    replace key value (front ++ back) = replace key value front ++ replace key value back := by
  have positive : 0 < key.length := List.length_pos_iff.mpr nonempty
  -- By the length of the front: a step takes a character off it, or the whole key.
  induction length : front.length using Nat.strong_induction_on generalizing front with
  | _ n ih =>
  cases front with
  | nil => rfl
  | cons c rest =>
      simp only [List.length_cons] at length
      have later : replace key value (rest ++ back) =
          replace key value rest ++ replace key value back :=
        ih rest.length (by omega) (apart.of_suffix (List.suffix_cons c rest)) rfl
      rw [List.cons_append, replace_cons nonempty, replace_cons nonempty]
      by_cases here : key <+: c :: rest
      · have within : key <+: c :: (rest ++ back) := here.trans ⟨back, rfl⟩
        have inside : key.length ≤ (c :: rest).length := here.length_le
        rw [if_pos (List.isPrefixOf_iff_prefix.mpr here),
          if_pos (List.isPrefixOf_iff_prefix.mpr within), ← List.cons_append,
          List.drop_append_of_le_length inside, List.append_assoc]
        refine congrArg (value ++ ·) (ih _ ?_ (apart.of_suffix (List.drop_suffix _ _)) rfl)
        rw [List.length_drop, List.length_cons]
        omega
      · have nowhere : ¬ key <+: c :: (rest ++ back) := by
          rintro ⟨more, whole⟩
          rw [← List.cons_append] at whole
          rcases List.append_eq_append_iff.mp whole with ⟨x, inside, -⟩ | ⟨q, reached, reaches⟩
          · exact here ⟨x, inside.symm⟩
          · refine apart (c :: rest) q reached (List.cons_ne_nil c rest) ?_ List.suffix_rfl
              ⟨more, reaches.symm⟩
            rintro rfl
            exact here ⟨[], by simp [reached]⟩
        rw [if_neg (mt List.isPrefixOf_iff_prefix.mp here),
          if_neg (mt List.isPrefixOf_iff_prefix.mp nowhere), later]
        rfl

/-- A text without the key stays as it is. -/
theorem replace_of_absent (nonempty : key ≠ []) (value : List Char) {text : List Char}
    (absent : ¬ key <:+: text) : replace key value text = text := by
  induction text with
  | nil => rfl
  | cons c rest ih =>
      have notHere : ¬ key.isPrefixOf (c :: rest) = true :=
        fun here => absent (List.isPrefixOf_iff_prefix.mp here).isInfix
      rw [replace_cons nonempty, if_neg notHere,
        ih fun there => absent (there.trans (List.suffix_cons c rest).isInfix)]

/-- The key itself becomes the value. -/
theorem replace_self (nonempty : key ≠ []) (value : List Char) : replace key value key = value := by
  obtain ⟨c, rest, rfl⟩ := List.exists_cons_of_ne_nil nonempty
  rw [replace_cons nonempty, if_pos (by simp), List.drop_length, replace_nil, List.append_nil]

end RobotCombat.Text
