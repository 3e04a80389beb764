import ExamPress.Text.Lines

/-!
# What stands in a line

Cutting a text into lines and taking blanks off their ends gives parts of the text, and no end of a
line in any of them.

## What is here

* `Text.infix_join`, `Text.mem_join` — what stands in texts that are joined;
* `Text.infix_trim` — taking off blanks;
* `Text.mem_lines` — a line of a text.
-/

set_option autoImplicit false

namespace ExamPress.Text

variable {sep : List Char} {parts : List (List Char)} {p s line : List Char}

theorem infix_join (h : p ∈ parts) : p <:+: join sep parts := by
  fun_induction join sep parts with
  | case1 => exact absurd h List.not_mem_nil
  | case2 q => exact List.mem_singleton.mp h ▸ List.infix_rfl
  | case3 q r parts ih =>
    rcases List.mem_cons.mp h with rfl | hrest
    · rw [List.append_assoc]
      exact List.infix_append [] p _
    · exact (ih hrest).trans (List.suffix_append _ _).isInfix

theorem mem_join {c : Char} (h : c ∈ join sep parts) : c ∈ sep ∨ ∃ p ∈ parts, c ∈ p := by
  fun_induction join sep parts with
  | case1 => exact absurd h List.not_mem_nil
  | case2 q => exact .inr ⟨q, List.mem_singleton_self q, h⟩
  | case3 q r parts ih =>
    rcases List.mem_append.mp h with hfirst | hrest
    · rcases List.mem_append.mp hfirst with hq | hsep
      · exact .inr ⟨q, List.mem_cons_self, hq⟩
      · exact .inl hsep
    · refine (ih hrest).imp_right ?_
      rintro ⟨p, hp, hc⟩
      exact ⟨p, List.mem_cons_of_mem q hp, hc⟩

theorem prefix_dropReturn (line : List Char) : dropReturn line <+: line := by
  rw [dropReturn]
  split
  · exact List.dropLast_prefix line
  · exact List.prefix_rfl

theorem prefix_trim (s : List Char) : trim s <+: trimStart s := by
  rw [← List.reverse_suffix, trim, trimEnd, List.reverse_reverse]
  exact List.dropWhile_suffix _

theorem infix_trim (s : List Char) : trim s <:+: s :=
  (prefix_trim s).isInfix.trans (List.dropWhile_suffix _).isInfix

/-- **A line stands in the text** and does not hold the end of a line. -/
theorem mem_lines (h : line ∈ lines s) : line <:+: s ∧ '\n' ∉ line := by
  have hpiece : ∀ p ∈ pieces '\n' s, p <:+: s ∧ '\n' ∉ p := fun p hp =>
    ⟨join_pieces '\n' s ▸ infix_join hp, not_mem_of_mem_pieces hp⟩
  have hended : ∀ line ∈ (pieces '\n' s).dropLast.map dropReturn, line <:+: s ∧ '\n' ∉ line := by
    intro line hline
    obtain ⟨p, hp, rfl⟩ := List.mem_map.mp hline
    obtain ⟨hin, hnone⟩ := hpiece p (List.dropLast_subset _ hp)
    have hshort := prefix_dropReturn p
    exact ⟨hshort.isInfix.trans hin, fun hc => hnone (hshort.subset hc)⟩
  rw [lines] at h
  split at h
  · exact hended line h
  · next last hlast =>
    split at h
    · exact hended line h
    · rcases List.mem_append.mp h with h | h
      · exact hended line h
      · rw [List.mem_singleton.mp h]
        exact hpiece last (List.mem_of_getLast? hlast)

end ExamPress.Text
