import ExamPress.Text.Lines

/-!
# What can be seen of a text

A text is trimmed, it is cut into lines, and texts are put together with blanks between them.  None
of this touches a character that can be seen.  So a text that went through it can be compared with
what it was made from once all blanks are left out of both.

## What is here

* `Text.solid` — the characters of a text that are not blank;
* `Text.solid_trim`, `Text.solid_join`, `Text.solid_lines` — trimming, joining, and cutting into
  lines.
-/

set_option autoImplicit false

namespace ExamPress.Text

/-- **What can be seen of a text**: its characters that are not blank. -/
def solid (s : List Char) : List Char := s.filter fun c => !isBlank c

@[simp] theorem solid_nil : solid [] = [] := rfl

@[simp] theorem solid_append (s t : List Char) : solid (s ++ t) = solid s ++ solid t :=
  List.filter_append s t

@[simp] theorem solid_reverse (s : List Char) : solid s.reverse = (solid s).reverse :=
  List.filter_reverse

/-- What can be seen of texts put together. -/
theorem solid_flatten (parts : List (List Char)) : solid parts.flatten = parts.flatMap solid := by
  rw [solid, List.filter_flatten, List.flatMap_def]
  rfl

theorem solid_eq_nil_iff {s : List Char} : solid s = [] ↔ allBlank s = true := by
  simp [solid, allBlank]

/-- **Trimming touches nothing that can be seen.** -/
@[simp] theorem solid_trim (s : List Char) : solid (trim s) = solid s := by
  have hstart (s : List Char) : solid (trimStart s) = solid s := by
    obtain ⟨b, hs, hb⟩ := exists_eq_append_trimStart s
    calc solid (trimStart s) = solid b ++ solid (trimStart s) := by rw [solid_eq_nil_iff.mpr hb]; rfl
      _ = solid (b ++ trimStart s) := (solid_append _ _).symm
      _ = solid s := by rw [← hs]
  have hend (s : List Char) : solid (trimEnd s) = solid s := by
    calc solid (trimEnd s) = solid (trimStart s.reverse).reverse := rfl
      _ = solid s := by rw [solid_reverse, hstart, solid_reverse, List.reverse_reverse]
  rw [trim, hend, hstart]

/-- **Joining texts with blanks** puts side by side what can be seen of them. -/
theorem solid_join {sep : List Char} (hsep : allBlank sep = true) (parts : List (List Char)) :
    solid (join sep parts) = parts.flatMap solid := by
  fun_induction join sep parts with
  | case1 => rfl
  | case2 p => simp
  | case3 p q ps ih => simp [ih, solid_eq_nil_iff.mpr hsep]

theorem solid_dropReturn (line : List Char) : solid (dropReturn line) = solid line := by
  rw [dropReturn]
  split
  · next hlast =>
    obtain ⟨before, rfl⟩ := List.getLast?_eq_some_iff.mp hlast
    have hreturn : solid ['\r'] = [] := by decide
    rw [List.dropLast_concat, solid_append, hreturn, List.append_nil]
  · rfl

/-- **Cutting a text into lines touches nothing that can be seen.** -/
theorem solid_lines (s : List Char) : (lines s).flatMap solid = solid s := by
  obtain ⟨ended, last, hpieces⟩ : ∃ ended last, pieces '\n' s = ended ++ [last] :=
    ⟨_, _, (List.dropLast_concat_getLast (pieces_ne_nil '\n' s)).symm⟩
  have hended : (ended.map dropReturn).flatMap solid = ended.flatMap solid := by
    simp only [List.flatMap_map, solid_dropReturn]
  calc (lines s).flatMap solid = ended.flatMap solid ++ solid last := by
        rw [lines, hpieces, List.dropLast_concat, List.getLast?_concat]
        by_cases h : last = [] <;> simp [h, hended]
    _ = (pieces '\n' s).flatMap solid := by simp [hpieces]
    _ = solid (join ['\n'] (pieces '\n' s)) := (solid_join (by decide) _).symm
    _ = solid s := by rw [join_pieces]

/-- A text in which anything can be seen has a line. -/
theorem lines_ne_nil {s : List Char} (h : allBlank s = false) : lines s ≠ [] := by
  intro hnone
  have hsolid := solid_lines s
  rw [hnone, List.flatMap_nil, eq_comm, solid_eq_nil_iff, h] at hsolid
  cases hsolid

end ExamPress.Text
