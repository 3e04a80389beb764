import ExamPress.Files.Tree

/-!
# The tree beside a folder

A folder that is made for some work, and removed afterwards, leaves no trace if the work only
touches what is in it.  Trees are compared beside the folder by cutting it out of both:
`FileTree.cut` forgets what is at and below a place and keeps all the rest in its order, so what
happened in between left the rest alone when the two cuts are equal.

## What is here

* `cut_put_append`, `cut_graft` — changes at and below a place are not seen from beside it;
* `cut_eq_self_of_isFree` — nothing is lost where nothing was;
* `at?_graft` — what is below a place that got other contents.
-/

set_option autoImplicit false

namespace ExamPress.Files

/-! ## Entries that a test of their places keeps -/

/-- What is put at a place that does not pass a test is not among the entries that do. -/
theorem filter_putEntry (keeps : Place → Bool) {place : Place} (h : keeps place = false)
    (entry : Entry) (es : List (Place × Entry)) :
    (putEntry place entry es).filter (fun e => keeps e.1) = es.filter fun e => keeps e.1 := by
  induction es with
  | nil => simp [putEntry, h]
  | cons e es ih =>
    rw [putEntry]
    split
    · next heq => simp [heq, h]
    · simp only [List.filter_cons, ih]

/-- Entries that do not pass a test are not found among those that do. -/
theorem lookup_filter_eq_none (keeps : Place → Bool) {place : Place}
    (h : keeps place = false) (es : List (Place × Entry)) :
    (es.filter fun e => keeps e.1).lookup place = none := by
  rw [List.lookup_eq_none_iff]
  intro e he
  have hkeeps : keeps e.1 = true := (List.mem_filter.mp he).2
  rw [bne_iff_ne]
  rintro rfl
  rw [h] at hkeeps
  exact absurd hkeeps (by decide)

/-- An entry whose place is new among others comes last. -/
theorem putEntry_eq_append {place : Place} {es : List (Place × Entry)}
    (h : ∀ e ∈ es, e.1 ≠ place) (entry : Entry) :
    putEntry place entry es = es ++ [(place, entry)] := by
  induction es with
  | nil => rfl
  | cons e es ih =>
    obtain ⟨hne, hrest⟩ := List.forall_mem_cons.mp h
    rw [putEntry, if_neg hne, ih hrest, List.cons_append]

/-- What has been moved below a place is found below it. -/
theorem lookup_map_append (place way : Place) (contents : List (Place × Entry)) :
    (contents.map fun e => (place ++ e.1, e.2)).lookup (place ++ way) = contents.lookup way := by
  induction contents with
  | nil => rfl
  | cons e contents ih =>
    have hkey : (place ++ way == place ++ e.1) = (way == e.1) := by
      rw [Bool.eq_iff_iff, beq_iff_eq, beq_iff_eq, List.append_cancel_left_eq]
    rw [List.map_cons, List.lookup_cons, List.lookup_cons, hkey, ih]

theorem Place.way?_self (place : Place) : Place.way? place place = some [] := by
  simpa using Place.way?_append place []

namespace FileTree

/-! ## Beside a folder -/

/-- **A change below a place is not seen from beside it.** -/
theorem cut_put_append (t : FileTree) (place way : Place) (entry : Entry) :
    (t.put (place ++ way) entry).cut place = t.cut place := by
  have h : (Place.way? place (place ++ way)).isNone = false := by simp [Place.way?_append]
  rw [cut, put, filter_putEntry (fun other => (Place.way? place other).isNone) h]
  rfl

theorem cut_put_self (t : FileTree) (place : Place) (entry : Entry) :
    (t.put place entry).cut place = t.cut place := by
  simpa using t.cut_put_append place [] entry

/-- **Other contents of a folder are not seen from beside it.** -/
theorem cut_graft (t : FileTree) (place : Place) (contents : List (Place × Entry)) :
    (t.graft place contents).cut place = t.cut place := by
  have hmoved : (contents.map fun e => (place ++ e.1, e.2)).filter
      (fun e => (Place.way? place e.1).isNone) = [] := by
    simp [List.filter_map, Function.comp_def, Place.way?_append]
  simp [cut, graft, Place.way?_self, hmoved]

/-- Where nothing is at a place or below it, no entry is on a way from it. -/
theorem isFree_iff_forall_ne {t : FileTree} {place : Place} :
    t.isFree place = true ↔ ∀ e ∈ t.entries, ∀ way, e.1 ≠ place ++ way := by
  rw [isFree, List.all_eq_true]
  refine forall₂_congr fun e _ => ?_
  rw [Option.isNone_iff_eq_none, Option.eq_none_iff_forall_ne_some]
  refine forall_congr' fun way => not_congr ⟨Place.way?_eq_some, fun h => ?_⟩
  rw [h, Place.way?_append]

theorem at?_eq_none_of_isFree {t : FileTree} {place : Place} (h : t.isFree place = true)
    {way : Place} (hway : place ++ way ≠ []) : t.at? (place ++ way) = none := by
  rw [isFree_iff_forall_ne] at h
  rw [at?]
  · refine List.lookup_eq_none_iff.mpr fun e he => ?_
    rw [bne_iff_ne]
    exact (h e he way).symm
  · exact hway

/-- **Cutting loses nothing where nothing is.** -/
theorem cut_eq_self_of_isFree {t : FileTree} {place : Place} (h : t.isFree place = true) :
    t.cut place = t := by
  rw [isFree, List.all_eq_true] at h
  rw [cut, List.filter_eq_self.mpr h]

/-! ## In the folder -/

/-- **Below a place that got other contents, these are found.** -/
theorem at?_graft (t : FileTree) (place : Place) (contents : List (Place × Entry)) {way : Place}
    (hway : way ≠ []) : (t.graft place contents).at? (place ++ way) = contents.lookup way := by
  have hne : place ++ way ≠ place := fun h => hway (by simpa using h)
  have hcut : (t.cut place).entries.lookup (place ++ way) = none :=
    lookup_filter_eq_none (fun other => (Place.way? place other).isNone)
      (by simp [Place.way?_append]) t.entries
  have hlookup : (t.graft place contents).entries.lookup (place ++ way) = contents.lookup way := by
    rw [graft, List.lookup_append, hcut, Option.none_or, List.lookup_cons,
      beq_eq_false_iff_ne.mpr hne, lookup_map_append]
  rw [at?]
  · exact hlookup
  · simp [hway]

end FileTree

end ExamPress.Files
