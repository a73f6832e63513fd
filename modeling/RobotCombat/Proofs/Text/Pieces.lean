/-
# RobotCombat.Proofs.Text.Pieces — a text in pieces

A text is cut at every separating character, and what was joined with one comes apart
again: `splitAt_append` for two texts, `map_trim_splitAt` for any number of trimmed ones
with blanks around the separators.
-/
import RobotCombat.Proofs.Text.Words

namespace RobotCombat.Text

set_option autoImplicit false

/-- Cutting at a separating character is the library's `splitOn`. -/
theorem splitAt_eq_splitOn (separator : Char) (text : List Char) :
    splitAt separator text = text.splitOn separator := by
  induction text with
  | nil => rfl
  | cons c text ih =>
      rw [List.splitOn_cons_eq_if_modifyHead, splitAt, ih]
      obtain ⟨piece, pieces, whole⟩ :=
        List.exists_cons_of_ne_nil (List.splitOn_ne_nil separator text)
      simp [whole]

theorem splitAt_ne_nil (separator : Char) (text : List Char) : splitAt separator text ≠ [] := by
  rw [splitAt_eq_splitOn]
  exact List.splitOn_ne_nil separator text

/-- A separating character ends a piece. -/
theorem splitAt_append (separator : Char) (rest text : List Char) :
    splitAt separator (text ++ separator :: rest) =
      splitAt separator text ++ splitAt separator rest := by
  rw [splitAt_eq_splitOn, splitAt_eq_splitOn, splitAt_eq_splitOn]
  exact List.splitOn_append_cons_self text rest

theorem splitAt_of_not_mem {separator : Char} {text : List Char} (whole : separator ∉ text) :
    splitAt separator text = [text] := by
  rw [splitAt_eq_splitOn]
  exact List.splitOn_eq_singleton whole

/-! ## Pieces with blanks around -/

theorem trim_cons_blank {c : Char} (blank : isBlank c = true) (text : List Char) :
    trim (c :: text) = trim text := by
  simp [trim, trimStart, blank]

theorem trim_append_blank {c : Char} (blank : isBlank c = true) (text : List Char) :
    trim (text ++ [c]) = trim text := by
  obtain ⟨left, right, whole, leftBlank, rightBlank, trimmed⟩ := trims_trim text
  have blanks : Blanks (right ++ [c]) := by
    intro d member
    rcases List.mem_append.mp member with inside | last
    · exact rightBlank d inside
    · rw [List.mem_singleton.mp last]
      exact blank
  rw [trim_eq_iff]
  refine ⟨left, right ++ [c], ?_, leftBlank, blanks, trimmed⟩
  calc text ++ [c] = (left ++ trim text ++ right) ++ [c] := congrArg (· ++ [c]) whole
    _ = left ++ trim text ++ (right ++ [c]) := List.append_assoc ..

theorem map_trim_splitAt_cons {separator c : Char} (blank : isBlank c = true)
    (other : c ≠ separator) (text : List Char) :
    (splitAt separator (c :: text)).map trim = (splitAt separator text).map trim := by
  obtain ⟨piece, pieces, whole⟩ := List.exists_cons_of_ne_nil (splitAt_ne_nil separator text)
  simp [splitAt, other, whole, trim_cons_blank blank]

/-- Trimmed texts that were joined by a separator between blanks come apart again. -/
theorem map_trim_splitAt {separator : Char} (solid : ' ' ≠ separator) :
    ∀ {piece : List Char} {pieces : List (List Char)},
      (∀ p ∈ piece :: pieces, trim p = p ∧ separator ∉ p) →
        (splitAt separator ([' ', separator, ' '].intercalate (piece :: pieces))).map trim =
          piece :: pieces
  | piece, [], each => by
      obtain ⟨trimmed, whole⟩ := each piece List.mem_cons_self
      simp [splitAt_of_not_mem whole, trimmed]
  | piece, next :: pieces, each => by
      obtain ⟨trimmed, whole⟩ := each piece List.mem_cons_self
      have later := map_trim_splitAt solid fun p among => each p (List.mem_cons_of_mem piece among)
      have ended : separator ∉ piece ++ [' '] := by simp [whole, solid.symm]
      have joined : [' ', separator, ' '].intercalate (piece :: next :: pieces) =
          (piece ++ [' ']) ++ separator ::
            ' ' :: [' ', separator, ' '].intercalate (next :: pieces) := by
        simp [List.intercalate_cons_cons]
      rw [joined, splitAt_append, splitAt_of_not_mem ended, List.map_append,
        map_trim_splitAt_cons rfl solid, later]
      simp [trim_append_blank, isBlank, blankRanges, trimmed]

/-- A trimmed text that is not empty has a character that is not blank. -/
theorem exists_solid {text : List Char} (trimmed : trim text = text) (nonempty : text ≠ []) :
    ∃ c ∈ text, isBlank c = false := by
  obtain ⟨c, rest, rfl⟩ := List.exists_cons_of_ne_nil nonempty
  exact ⟨c, List.mem_cons_self, (trim_eq_iff.mp trimmed).trimmed.front c rfl⟩

/-- A text with a solid character in it is not trimmed away. -/
theorem trim_ne_nil {text : List Char} {c : Char} (member : c ∈ text)
    (solid : isBlank c = false) : trim text ≠ [] := by
  intro nothing
  obtain ⟨left, right, whole, leftBlank, rightBlank, -⟩ := trims_trim text
  rw [nothing, List.append_nil] at whole
  rw [whole] at member
  rcases List.mem_append.mp member with inside | inside
  · rw [leftBlank c inside] at solid
    cases solid
  · rw [rightBlank c inside] at solid
    cases solid

end RobotCombat.Text
