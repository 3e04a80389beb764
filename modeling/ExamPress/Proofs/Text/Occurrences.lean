import Mathlib.Data.List.Infix

/-!
# How often a word occurs in a text

The occurrences of a word are counted at every place of a text where it begins.  What is in the way
of counting part by part is that a word could begin in one part and end in the next.  Where a
character stands between the parts that is not in the word, it cannot.

## What is here

* `Text.occurrences` — how often a word occurs in a text;
* `Text.occurrences_eq_zero_iff` — it does not occur;
* `Text.Parted`, `Text.occurrences_append` — texts between which a word cannot begin and end;
* `Text.le_occurrences_append`, `Text.occurrences_le_of_prefix` — bounds.
-/

set_option autoImplicit false

namespace ExamPress.Text

/-- **How often a word occurs in a text**: at how many places it begins. -/
def occurrences (w : List Char) : List Char → Nat
  | [] => 0
  | c :: s => (if w <+: c :: s then 1 else 0) + occurrences w s

variable {w u s v : List Char}

/-- **A word does not occur.** -/
theorem occurrences_eq_zero_iff (hw : w ≠ []) : occurrences w s = 0 ↔ ¬w <:+: s := by
  induction s with
  | nil => simp [occurrences, hw]
  | cons c s ih =>
    rw [occurrences, Nat.add_eq_zero_iff, ih, List.infix_cons_iff, not_or]
    simp

/-- A word that does not go through a character begins a text that this character ends, or it does
not reach it. -/
theorem prefix_append_cons_iff {c : Char} (hc : c ∉ w) : w <+: s ++ c :: v ↔ w <+: s := by
  refine ⟨fun h => ?_, fun h => h.trans (List.prefix_append _ _)⟩
  have hsplit : s ++ [c] <+: s ++ c :: v := ⟨v, by simp⟩
  rcases List.prefix_or_prefix_of_prefix h hsplit with hshort | hlong
  · rcases List.prefix_concat_iff.mp hshort with rfl | hin
    · exact absurd (by simp) hc
    · exact hin
  · exact absurd (hlong.subset (by simp)) hc

/-- **No occurrence goes through a character that is not in the word.** -/
theorem occurrences_append_cons (hw : w ≠ []) {c : Char} (hc : c ∉ w) (s v : List Char) :
    occurrences w (s ++ c :: v) = occurrences w s + occurrences w v := by
  induction s with
  | nil =>
    have hnot : ¬w <+: c :: v := fun h =>
      hw (List.prefix_nil.mp ((prefix_append_cons_iff (s := []) hc).mp h))
    simp [occurrences, hnot]
  | cons a s ih =>
    have hsame : w <+: a :: (s ++ c :: v) ↔ w <+: a :: s := by
      rw [← List.cons_append, prefix_append_cons_iff hc]
    rw [List.cons_append, occurrences, occurrences, ih, if_congr hsame rfl rfl, Nat.add_assoc]

/-- **Two texts are parted** by a character that is not in the word, at the end of the first or at
the beginning of the second. -/
def Parted (w s v : List Char) : Prop := (∀ c ∈ s.getLast?, c ∉ w) ∨ ∀ c ∈ v.head?, c ∉ w

theorem Parted.of_last {c : Char} (h : s.getLast? = some c) (hc : c ∉ w) : Parted w s v :=
  .inl (by simpa [h] using hc)

theorem Parted.of_head {c : Char} (h : v.head? = some c) (hc : c ∉ w) : Parted w s v :=
  .inr (by simpa [h] using hc)

/-- **In texts that are parted a word occurs as often as in each of them.** -/
theorem occurrences_append (hw : w ≠ []) (h : Parted w s v) :
    occurrences w (s ++ v) = occurrences w s + occurrences w v := by
  rcases h with hlast | hhead
  · rcases List.eq_nil_or_concat s with rfl | ⟨s, c, rfl⟩
    · simp [occurrences]
    · have hc : c ∉ w := hlast c (by simp)
      rw [List.concat_eq_append, List.append_assoc, List.singleton_append,
        occurrences_append_cons hw hc, occurrences_append_cons hw hc, occurrences, Nat.add_zero]
  · cases v with
    | nil => simp [occurrences]
    | cons c v =>
      have hc : c ∉ w := hhead c rfl
      have hcons := occurrences_append_cons hw hc [] v
      rw [List.nil_append, occurrences, Nat.zero_add] at hcons
      rw [occurrences_append_cons hw hc, hcons]

/-- Texts that are put together hold all that each of them holds. -/
theorem le_occurrences_append (w s v : List Char) :
    occurrences w s + occurrences w v ≤ occurrences w (s ++ v) := by
  induction s with
  | nil => simp [occurrences]
  | cons a s ih =>
    rw [List.cons_append, occurrences, occurrences]
    have hle : (if w <+: a :: s then 1 else 0) ≤ if w <+: a :: (s ++ v) then 1 else 0 := by
      split
      · next h => rw [if_pos (h.trans (List.cons_prefix_cons.mpr ⟨rfl, List.prefix_append _ _⟩))]
      · exact Nat.zero_le _
    omega

/-- A longer word does not occur more often. -/
theorem occurrences_le_of_prefix (h : u <+: w) (s : List Char) :
    occurrences w s ≤ occurrences u s := by
  induction s with
  | nil => exact Nat.le_refl _
  | cons a s ih =>
    rw [occurrences, occurrences]
    have hle : (if w <+: a :: s then 1 else 0) ≤ if u <+: a :: s then 1 else 0 := by
      split
      · next hw => rw [if_pos (h.trans hw)]
      · exact Nat.zero_le _
    omega

end ExamPress.Text
