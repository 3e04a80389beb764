import ExamPress.Proofs.Text.Solid
import Mathlib.Data.List.Basic

/-!
# Texts without blanks at their ends

Trimming takes from a text what is blank at its ends and nothing else.  Two facts say so.  Nothing
blank is left at the ends; and the text is what is left with blanks on both sides of it.  Together
they tell what trimming gives without looking at how it is done: a text without blanks at its ends
is got back from under any blanks that are put around it.

## What is here

* `IsTrimmed` — there is no blank at either end; `isTrimmed_trim` that trimming sees to it, and
  `IsTrimmed.eq_empty_iff` when such a text is empty;
* `Around` — a text with blanks on both sides; `around_trim` and `Around.trim_eq`, by which trimming
  is just the way back;
* `IsTrimmed.join` — texts put together that have something in them.
-/

set_option autoImplicit false

namespace ExamPress.Text

variable {s t b : List Char}

/-- **There is no blank at either end of a text.** -/
structure IsTrimmed (s : List Char) : Prop where
  start : ∀ c ∈ s.head?, isBlank c = false
  finish : ∀ c ∈ s.getLast?, isBlank c = false

/-- A text in which no character is blank. -/
theorem IsTrimmed.of_forall (h : ∀ c ∈ s, isBlank c = false) : IsTrimmed s where
  start := fun c hc => h c (List.mem_of_mem_head? hc)
  finish := fun c hc => h c (List.mem_of_mem_getLast? hc)

/-- Without blanks at its ends, a text is blank only if it is empty. -/
theorem IsTrimmed.allBlank_iff (h : IsTrimmed s) : allBlank s = true ↔ s = [] := by
  constructor
  · intro hblank
    cases s with
    | nil => rfl
    | cons c s =>
      have hc : isBlank c = false := h.start c rfl
      rw [allBlank_cons, hc] at hblank
      cases hblank
  · rintro rfl
    rfl

/-- Without blanks at its ends, there is nothing in a text exactly when nothing can be seen of it. -/
theorem IsTrimmed.eq_empty_iff {s : String} (h : IsTrimmed s.toList) :
    s = "" ↔ solid s.toList = [] := by
  rw [solid_eq_nil_iff, h.allBlank_iff, String.toList_eq_nil_iff]

theorem IsTrimmed.reverse (h : IsTrimmed s) : IsTrimmed s.reverse where
  start := by
    rw [List.head?_reverse]
    exact h.finish
  finish := by
    rw [List.getLast?_reverse]
    exact h.start

/-! ## Taking blanks off -/

/-- Blanks that are put in front are taken off. -/
theorem trimStart_append (hb : allBlank b = true) (s : List Char) :
    trimStart (b ++ s) = trimStart s :=
  List.dropWhile_append_of_pos (by simpa [allBlank] using hb)

theorem trimStart_eq_self (h : ∀ c ∈ s.head?, isBlank c = false) : trimStart s = s := by
  cases s with
  | nil => rfl
  | cons c s =>
    have hc : isBlank c = false := h c rfl
    exact List.dropWhile_cons_of_neg (by simp [hc])

theorem isBlank_of_mem_head?_trimStart {c : Char} (h : c ∈ (trimStart s).head?) :
    isBlank c = false := by
  have hhead := List.head?_dropWhile_not isBlank s
  rw [← trimStart, Option.mem_def.mp h] at hhead
  exact hhead

/-- What trimming takes from the end is blank. -/
theorem exists_eq_trimEnd_append (s : List Char) :
    ∃ a, s = trimEnd s ++ a ∧ allBlank a = true := by
  obtain ⟨b, hb, hblank⟩ := exists_eq_append_trimStart s.reverse
  refine ⟨b.reverse, ?_, by rwa [allBlank, List.all_reverse]⟩
  calc s = (b ++ trimStart s.reverse).reverse := by rw [← hb, List.reverse_reverse]
    _ = trimEnd s ++ b.reverse := List.reverse_append

/-- **Nothing blank is left at the ends.** -/
theorem isTrimmed_trim (s : List Char) : IsTrimmed (trim s) := by
  refine ⟨fun c hc => ?_, fun c hc => ?_⟩
  · -- what is taken from the end does not uncover another beginning
    obtain ⟨a, ha, -⟩ := exists_eq_trimEnd_append (trimStart s)
    refine isBlank_of_mem_head?_trimStart (s := s) ?_
    rw [ha, List.head?_append]
    exact Option.or_eq_some_iff.mpr (.inl hc)
  · have hreverse : trim s = (trimStart (trimStart s).reverse).reverse := rfl
    rw [hreverse, List.getLast?_reverse] at hc
    exact isBlank_of_mem_head?_trimStart hc

/-! ## Blanks on both sides -/

/-- **A text with blanks on both sides of it.** -/
def Around (s t : List Char) : Prop :=
  ∃ before after, allBlank before = true ∧ allBlank after = true ∧ t = before ++ s ++ after

/-- A text is what trimming leaves of it, with blanks on both sides. -/
theorem around_trim (s : List Char) : Around (trim s) s := by
  obtain ⟨before, hstart, hbefore⟩ := exists_eq_append_trimStart s
  obtain ⟨after, hend, hafter⟩ := exists_eq_trimEnd_append (trimStart s)
  refine ⟨before, after, hbefore, hafter, ?_⟩
  rw [trim, List.append_assoc, ← hend, ← hstart]

/-- **A text without blanks at its ends is got back** from between blanks. -/
theorem Around.trim_eq (h : Around s t) (hs : IsTrimmed s) : trim t = s := by
  obtain ⟨before, after, hbefore, hafter, rfl⟩ := h
  cases hcs : s with
  | nil => simp [trim_eq_nil_iff, hbefore, hafter]
  | cons c r =>
    rw [← hcs]
    have hne : s ≠ [] := by simp [hcs]
    have hstart : trimStart (before ++ s ++ after) = s ++ after := by
      rw [List.append_assoc, trimStart_append hbefore, trimStart_eq_self]
      rw [List.head?_append_of_ne_nil _ hne]
      exact hs.start
    have hend : trimStart (s ++ after).reverse = s.reverse := by
      rw [List.reverse_append, trimStart_append (by rwa [allBlank, List.all_reverse]),
        trimStart_eq_self hs.reverse.start]
    calc trim (before ++ s ++ after) = (trimStart (s ++ after).reverse).reverse := by
          rw [trim, hstart]
          rfl
      _ = s := by rw [hend, List.reverse_reverse]

/-! ## Putting together -/

theorem join_ne_nil {sep p : List Char} {parts : List (List Char)} (h : p ≠ []) :
    join sep (p :: parts) ≠ [] := by
  cases parts <;> simp [join, h]

/-- **Texts put together** have no blanks at the ends if none of them has, and each has something in
it. -/
theorem IsTrimmed.join {sep : List Char} {parts : List (List Char)}
    (h : ∀ p ∈ parts, p ≠ [] ∧ IsTrimmed p) : IsTrimmed (join sep parts) := by
  fun_induction Text.join sep parts with
  | case1 => exact .of_forall fun c hc => absurd hc List.not_mem_nil
  | case2 p => exact (h p (List.mem_singleton_self p)).2
  | case3 p q parts ih =>
    rw [List.forall_mem_cons] at h
    obtain ⟨⟨hne, hp⟩, hrest⟩ := h
    have hlast : Text.join sep (q :: parts) ≠ [] := join_ne_nil (hrest q List.mem_cons_self).1
    constructor
    · rw [List.append_assoc, List.head?_append_of_ne_nil _ hne]
      exact hp.start
    · rw [List.getLast?_append_of_ne_nil _ hlast]
      exact (ih hrest).finish

end ExamPress.Text
