import ExamPress.Selection
import Mathlib.Data.List.Basic

/-!
# Things in the order of a selection

Ordering things by a selection is a stable sort by a number: the place of the id of each, where all
ids that are not selected share the last place.  What comes out can be said without sorting: for
each selected id in turn the things with that id, and then all things with other ids, each of these
groups as it was.

Two facts make this up.  A stable sort does not change the order within a group of things with one
number; and a list that is ordered by its numbers falls into its groups, which is read off along
the list of selected ids, one id at a time.

## What is here

* `filter_mergeSort` — sorting keeps each group of things with one number as it is;
* `eq_groups_of_ordered` — an ordered list is made up of its groups;
* `Selection.sortBy_eq` — the order of a selection, without sorting.
-/

set_option autoImplicit false

namespace ExamPress

variable {α : Type}

/-! ## Groups of a sorted list -/

section Number

variable (number : α → Nat)

theorem number_trans (a b c : α) (h : decide (number a ≤ number b) = true)
    (k : decide (number b ≤ number c) = true) : decide (number a ≤ number c) = true := by
  rw [decide_eq_true_eq] at h k ⊢
  exact Nat.le_trans h k

theorem number_total (a b : α) :
    (decide (number a ≤ number b) || decide (number b ≤ number a)) = true := by
  simpa using Nat.le_total (number a) (number b)

/-- Sorting by a number puts the smaller numbers first. -/
theorem pairwise_mergeSort_number (items : List α) :
    (items.mergeSort fun a b => number a ≤ number b).Pairwise fun a b => number a ≤ number b := by
  simpa using List.pairwise_mergeSort (number_trans number) (number_total number) items

/-- **Sorting by a number is stable**: it keeps the things that have one number as they are. -/
theorem filter_mergeSort (n : Nat) (items : List α) :
    (items.mergeSort fun a b => number a ≤ number b).filter (number · = n) =
      items.filter (number · = n) := by
  induction items with
  | nil => simp
  | cons a items ih =>
    obtain ⟨before, after, hcons, hitems, hbefore⟩ :=
      List.mergeSort_cons (number_trans number) (number_total number) a items
    rw [hcons]
    rw [hitems, List.filter_append] at ih
    by_cases ha : number a = n
    · -- what comes before `a` has smaller numbers, so the group of `a` begins with it
      have hnone : before.filter (number · = n) = [] := by
        rw [List.filter_eq_nil_iff]
        intro b hb
        have hlt : number b < n := by simpa [ha] using hbefore b hb
        simp [Nat.ne_of_lt hlt]
      rw [hnone, List.nil_append] at ih
      simp [hnone, ha, ih]
    · simp [ha, ← ih]

end Number

/-- A list in which all that passes a test comes first. -/
theorem filter_append_filter_of_pairwise {p : α → Bool} {items : List α}
    (h : items.Pairwise fun a b => p b = true → p a = true) :
    items.filter p ++ items.filter (fun a => !p a) = items := by
  induction items with
  | nil => rfl
  | cons a items ih =>
    obtain ⟨ha, hitems⟩ := List.pairwise_cons.mp h
    cases hp : p a with
    | true => simp [hp, ih hitems]
    | false =>
      have hnone : ∀ b ∈ items, p b = false := fun b hb => by
        cases hb' : p b with
        | false => rfl
        | true => exact absurd (ha b hb hb') (by simp [hp])
      have hfirst : items.filter p = [] := List.filter_eq_nil_iff.mpr (by simpa using hnone)
      have hrest : items.filter (fun a => !p a) = items :=
        List.filter_eq_self.mpr (by simpa using hnone)
      simp [hp, hfirst, hrest]

section Groups

variable (idOf : α → QuestionId) {id : QuestionId} {ids : List QuestionId} {items : List α}

/-- In the order of some ids, the things with the first id come first. -/
theorem pairwise_first (h : items.Pairwise fun a b =>
      (id :: ids).idxOf (idOf a) ≤ (id :: ids).idxOf (idOf b)) :
    items.Pairwise fun a b => decide (idOf b = id) = true → decide (idOf a = id) = true := by
  refine h.imp fun {a b} hab hb => ?_
  rw [decide_eq_true_eq] at hb ⊢
  rw [hb, List.idxOf_cons_self, Nat.le_zero_eq] at hab
  by_contra hne
  rw [List.idxOf_cons_ne _ (Ne.symm hne)] at hab
  omega

/-- In the order of some ids, the things without the first id are in the order of the others. -/
theorem pairwise_rest (h : items.Pairwise fun a b =>
      (id :: ids).idxOf (idOf a) ≤ (id :: ids).idxOf (idOf b)) :
    (items.filter fun a => !decide (idOf a = id)).Pairwise
      fun a b => ids.idxOf (idOf a) ≤ ids.idxOf (idOf b) := by
  refine (List.Pairwise.and_mem.mp (h.filter _)).imp fun {a b} hab => ?_
  obtain ⟨ha, hb, hab⟩ := hab
  have ha : id ≠ idOf a := fun e => by simp [← e] at ha
  have hb : id ≠ idOf b := fun e => by simp [← e] at hb
  rw [List.idxOf_cons_ne _ ha, List.idxOf_cons_ne _ hb] at hab
  omega

/-- The group of an id is the same without the things that have another id. -/
theorem filter_without {i : QuestionId} (hne : i ≠ id) :
    (items.filter fun a => !decide (idOf a = id)).filter (idOf · = i) =
      items.filter (idOf · = i) := by
  rw [List.filter_filter]
  refine List.filter_congr fun a _ => ?_
  by_cases hai : idOf a = i <;> simp [hai, hne]

/-- The things without an id and without others are those without all of them. -/
theorem filter_without_all :
    (items.filter fun a => !decide (idOf a = id)).filter (fun a => !ids.contains (idOf a)) =
      items.filter fun a => !(id :: ids).contains (idOf a) := by
  rw [List.filter_filter]
  refine List.filter_congr fun a _ => ?_
  by_cases hai : idOf a = id <;> simp [hai]

/-- **An ordered list is made up of its groups**, one for each id of a list in turn, and the group
of the things with other ids. -/
theorem eq_groups_of_ordered (hids : ids.Nodup)
    (h : items.Pairwise fun a b => ids.idxOf (idOf a) ≤ ids.idxOf (idOf b)) :
    items =
      ids.flatMap (fun id => items.filter (idOf · = id)) ++
        items.filter fun a => !ids.contains (idOf a) := by
  induction ids generalizing items with
  | nil => simp
  | cons id ids ih =>
    obtain ⟨hid, hids⟩ := List.nodup_cons.mp hids
    have hgroups : ∀ i ∈ ids, (items.filter fun a => !decide (idOf a = id)).filter (idOf · = i) =
        items.filter (idOf · = i) :=
      fun i hi => filter_without idOf fun e => hid (e ▸ hi)
    calc items
        = items.filter (fun a => decide (idOf a = id)) ++
            items.filter (fun a => !decide (idOf a = id)) :=
          (filter_append_filter_of_pairwise (pairwise_first idOf h)).symm
      _ = items.filter (fun a => decide (idOf a = id)) ++
            (ids.flatMap (fun i => items.filter (idOf · = i)) ++
              items.filter fun a => !(id :: ids).contains (idOf a)) := by
          conv => lhs; rw [ih hids (pairwise_rest idOf h)]
          rw [filter_without_all, List.flatMap_congr hgroups]
      _ = _ := by rw [List.flatMap_cons, List.append_assoc]

end Groups

/-! ## The order of a selection -/

namespace Selection

variable (s : Selection)

theorem sortKey_eq_idxOf (id : QuestionId) : s.sortKey id = s.ids.idxOf id := by
  rw [sortKey, rank?, size]
  induction s.ids with
  | nil => rfl
  | cons i ids ih =>
    rw [List.idxOf?_cons, List.idxOf_cons]
    by_cases h : (i == id) = true
    · simp [h]
    · have hmap : ((ids.idxOf? id).map (· + 1)).getD (ids.length + 1) =
          (ids.idxOf? id).getD ids.length + 1 := by
        cases ids.idxOf? id <;> rfl
      simp [h, hmap, ih]

/-- Two ids have one place only if they are the same or both are not selected. -/
theorem sortKey_eq_iff_of_mem {id : QuestionId} (h : id ∈ s.ids) (other : QuestionId) :
    s.sortKey other = s.sortKey id ↔ other = id := by
  rw [sortKey_eq_idxOf, sortKey_eq_idxOf, eq_comm, List.idxOf_inj h, eq_comm]

/-- All ids that are not selected have the place after the last. -/
theorem sortKey_eq_size_iff (id : QuestionId) : s.sortKey id = s.size ↔ id ∉ s.ids := by
  rw [sortKey_eq_idxOf, size, List.idxOf_eq_length_iff]

/-- Ordering keeps the things with a selected id as they are. -/
theorem filter_sortBy_of_mem (idOf : α → QuestionId) (items : List α) {id : QuestionId}
    (h : id ∈ s.ids) :
    (s.sortBy idOf items).filter (idOf · = id) = items.filter (idOf · = id) := by
  simpa only [sortBy, s.sortKey_eq_iff_of_mem h] using
    filter_mergeSort (fun a => s.sortKey (idOf a)) (s.sortKey id) items

/-- Ordering keeps the things whose ids are not selected as they are. -/
theorem filter_sortBy_not_contains (idOf : α → QuestionId) (items : List α) :
    (s.sortBy idOf items).filter (fun a => !s.contains (idOf a)) =
      items.filter fun a => !s.contains (idOf a) := by
  have hnot : ∀ a : α, (!s.contains (idOf a)) = decide (s.sortKey (idOf a) = s.size) := by
    intro a
    simp [s.sortKey_eq_size_iff, contains]
  simp only [hnot]
  exact filter_mergeSort (fun a => s.sortKey (idOf a)) s.size items

/-- **The order of a selection, without sorting**: for each selected id the things with that id,
and then those with other ids, each of them in the order in which they were. -/
theorem sortBy_eq (idOf : α → QuestionId) (items : List α) :
    s.sortBy idOf items =
      s.ids.flatMap (fun id => items.filter (idOf · = id)) ++
        items.filter fun a => !s.contains (idOf a) := by
  have hordered : (s.sortBy idOf items).Pairwise
      fun a b => s.ids.idxOf (idOf a) ≤ s.ids.idxOf (idOf b) := by
    simpa only [sortBy, sortKey_eq_idxOf] using
      pairwise_mergeSort_number (fun a => s.sortKey (idOf a)) items
  have hgroup := fun id (hid : id ∈ s.ids) => s.filter_sortBy_of_mem idOf items hid
  have hothers := s.filter_sortBy_not_contains idOf items
  rw [eq_groups_of_ordered idOf s.nodup hordered, List.flatMap_congr hgroup]
  exact congrArg _ hothers

end Selection

end ExamPress
