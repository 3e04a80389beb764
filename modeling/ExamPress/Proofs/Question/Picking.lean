import ExamPress.Press.Assembly
import ExamPress.Proofs.Question.Order
import ExamPress.Question.Bank
import Mathlib.Data.List.Count

/-!
# Picking questions

The questions of an exam are those of the bank that are selected, put into the order of the
selection.  This is the same as going through the wanted ids one by one, passing over those that
came before, and looking each of them up; and the ids that are called missing are those that are
not found on the way.  The bank may have been made by any questions put into it one after the other,
and the last one with an id is the one that is found.

## What is here

* `Bank.find?_insertAll` — the last question with an id is found;
* `Bank.select_eq_filterMap` — the questions of a selection, by looking up its ids;
* `pick` — going through wanted ids one by one;
* `Bank.count_select_missing` — every wanted id comes out once;
* `Bank.pick_insertAll` — the theorem.
-/

set_option autoImplicit false

namespace ExamPress

/-! ## Looking up -/

namespace Bank

theorem find?_place (q : Question) (ps : List Question) (id : QuestionId) :
    (place q ps).find? (·.id = id) = if q.id = id then some q else ps.find? (·.id = id) := by
  induction ps with
  | nil => by_cases h : q.id = id <;> simp [place, h]
  | cons p ps ih =>
    rw [place]
    split
    · by_cases h : q.id = id <;> simp [h]
    · split
      · next heq =>
        -- `q` takes the place of `p`, which has the same id
        by_cases h : q.id = id
        · simp [h]
        · have hp : p.id ≠ id := heq ▸ h
          simp [h, hp]
      · next hne =>
        by_cases hp : p.id = id
        · have hq : q.id ≠ id := fun h => hne (h.trans hp.symm)
          simp [hp, hq]
        · simp [hp, ih]

/-- A question that is put into a bank is found there in place of an older one. -/
theorem find?_insert (b : Bank) (q : Question) (id : QuestionId) :
    (b.insert q).find? id = if q.id = id then some q else b.find? id :=
  find?_place q b.questions id

/-- **The last question with an id is found**, or an older one where there is none. -/
theorem find?_insertAll (b : Bank) (qs : List Question) (id : QuestionId) :
    (b.insertAll qs).find? id = (qs.reverse.find? (·.id = id)).or (b.find? id) := by
  induction qs generalizing b with
  | nil => rfl
  | cons q qs ih =>
    have hstep : b.insertAll (q :: qs) = (b.insert q).insertAll qs := rfl
    rw [hstep, ih, find?_insert, List.reverse_cons, List.find?_append, Option.or_assoc]
    by_cases h : q.id = id <;> simp [h]

theorem id_of_find? {b : Bank} {id : QuestionId} {q : Question} (h : b.find? id = some q) :
    q.id = id := by
  simpa using List.find?_some h

/-- Among questions in ascending order there is at most one with an id. -/
theorem filter_eq_toList_find? {ps : List Question} (h : ps.Pairwise (·.id < ·.id))
    (id : QuestionId) : ps.filter (·.id = id) = (ps.find? (·.id = id)).toList := by
  induction ps with
  | nil => rfl
  | cons p ps ih =>
    obtain ⟨hp, hps⟩ := List.pairwise_cons.mp h
    by_cases hid : p.id = id
    · have hnone : ps.filter (·.id = id) = [] := by
        rw [List.filter_eq_nil_iff]
        intro q hq
        have hlt : id < q.id := hid ▸ hp q hq
        simpa using fun e : q.id = id => Int64.lt_irrefl (e ▸ hlt)
      simp [hid, hnone]
    · simp [hid, ih hps]

/-- **The questions of a selection are those that its ids are found to have**, in their order. -/
theorem select_eq_filterMap (b : Bank) (s : Selection) : b.select s = s.ids.filterMap b.find? := by
  have hothers : (b.questions.filter fun q => s.contains q.id).filter
      (fun q => !s.contains q.id) = [] := by
    rw [List.filter_filter, List.filter_eq_nil_iff]
    simp
  have hgroup : ∀ id ∈ s.ids, (b.questions.filter fun q => s.contains q.id).filter (·.id = id) =
      (b.find? id).toList := by
    intro id hid
    rw [find?, ← filter_eq_toList_find? b.ascending, List.filter_filter]
    refine List.filter_congr fun q _ => ?_
    by_cases h : q.id = id <;> simp [h, Selection.contains, hid]
  rw [select, Selection.sortBy_eq, hothers, List.append_nil, List.flatMap_congr hgroup,
    List.filterMap_eq_flatMap_toList]

/-- The ids of the questions of a selection are those that are found. -/
theorem map_id_select (b : Bank) (s : Selection) :
    (b.select s).map Question.id = s.ids.filter fun id => (b.find? id).isSome := by
  rw [select_eq_filterMap]
  induction s.ids with
  | nil => rfl
  | cons id ids ih =>
    cases h : b.find? id with
    | none => simp [h, ih]
    | some q => simp [h, ih, id_of_find? h]

end Bank

/-! ## One id after the other -/

/-- **Going through wanted ids one by one**, where some have been seen before: an id that has been
seen is passed over, any other is looked up.  What is found comes first, then the ids that are not
found. -/
def pick (lookup : QuestionId → Option Question) :
    (seen : List QuestionId) → List QuestionId → List Question × List QuestionId
  | _, [] => ([], [])
  | seen, id :: ids =>
    if id ∈ seen then pick lookup seen ids
    else
      let (found, missed) := pick lookup (id :: seen) ids
      match lookup id with
      | some q => (q :: found, missed)
      | none => (found, id :: missed)

theorem mem_firstOccurrences {id : QuestionId} {ids : List QuestionId} :
    id ∈ firstOccurrences ids ↔ id ∈ ids := by
  induction ids with
  | nil => rfl
  | cons i ids ih =>
    rw [firstOccurrences, List.mem_cons, List.mem_filter, ih, List.mem_cons]
    by_cases h : id = i <;> simp [h]

/-- What is picked is found for, or missed among, the first occurrences of ids not seen before. -/
theorem pick_eq (lookup : QuestionId → Option Question) (seen ids : List QuestionId) :
    pick lookup seen ids =
      (((firstOccurrences ids).filter (· ∉ seen)).filterMap lookup,
        ((firstOccurrences ids).filter (· ∉ seen)).filter fun id => (lookup id).isNone) := by
  induction ids generalizing seen with
  | nil => rfl
  | cons id ids ih =>
    -- the first occurrences that are new after `id` has been seen too
    have hnew : ((firstOccurrences ids).filter (· ≠ id)).filter (· ∉ seen) =
        (firstOccurrences ids).filter (· ∉ id :: seen) := by
      rw [List.filter_filter]
      refine List.filter_congr fun i _ => ?_
      by_cases h : i = id <;> simp [h]
    rw [pick, firstOccurrences]
    split
    · next h =>
      have hseen : (firstOccurrences ids).filter (· ∉ id :: seen) =
          (firstOccurrences ids).filter (· ∉ seen) := by
        refine List.filter_congr fun i _ => ?_
        by_cases hi : i = id
        · simp [hi, h]
        · simp [hi]
      rw [List.filter_cons_of_neg (by simpa using h), hnew, hseen, ih]
    · next h =>
      rw [List.filter_cons_of_pos (by simpa using h), hnew, ih]
      cases hid : lookup id <;> simp [hid]

/-! ## The questions of an exam -/

/-- An exam has as many questions as it was made of. -/
theorem Press.Assembler.map_questionCount_assemble (a : Press.Assembler) (t : Files.FileTree)
    (title : String) (questions : List Question) :
    (a.assemble t title questions).1.map Press.CompiledExam.questionCount =
      (a.assemble t title questions).1.map fun _ => questions.length := by
  rw [Press.Assembler.assemble, Press.Assembler.course]
  split
  · rfl
  · split
    · rfl
    · next s made _ =>
      dsimp only
      cases (a.typeset s made _).result <;> rfl

namespace Bank

/-- The last of some questions that has an id. -/
def lastWith (qs : List Question) (id : QuestionId) : Option Question :=
  qs.reverse.find? (·.id = id)

theorem find?_insertAll_empty (qs : List Question) : (empty.insertAll qs).find? = lastWith qs := by
  funext id
  rw [find?_insertAll, lastWith]
  exact Option.or_none

/-- A selection picks its ids one by one. -/
theorem select_missing_eq_pick (b : Bank) (ids : List QuestionId) :
    (b.select (.ofIds ids), b.missing (.ofIds ids)) = pick b.find? [] ids := by
  have hall : (firstOccurrences ids).filter (· ∉ ([] : List QuestionId)) = firstOccurrences ids :=
    List.filter_eq_self.mpr (by simp)
  rw [pick_eq, hall, select_eq_filterMap]
  rfl

/-- Every wanted id comes out once, with its question or as missing, and no other id does. -/
theorem count_select_missing (b : Bank) (ids : List QuestionId) (id : QuestionId) :
    ((b.select (.ofIds ids)).map Question.id ++ b.missing (.ofIds ids)).count id =
      if id ∈ ids then 1 else 0 := by
  have hmissing : b.missing (.ofIds ids) =
      (Selection.ofIds ids).ids.filter fun i => !(b.find? i).isSome := by
    simp [missing]
  have hperm := List.filter_append_perm (fun i => (b.find? i).isSome) (Selection.ofIds ids).ids
  rw [map_id_select, hmissing, hperm.count_eq, (Selection.ofIds ids).nodup.count]
  exact if_congr mem_firstOccurrences rfl rfl

/-- **Picking questions.**  Whatever was put into a bank, and whichever ids are wanted: the
questions that are selected, and the ids that are missing, are those of going through the ids one by
one, where the last question that was put in under an id is the one that is found.  So every wanted
id comes out exactly once, as the id of a question or as a missing one.  The exam is made of the
questions in this order, and its number of questions is how many they are. -/
theorem pick_insertAll (inserts : List Question) (ids : List QuestionId) :
    let bank := empty.insertAll inserts
    let questions := bank.select (.ofIds ids)
    let picked := pick (lastWith inserts) [] ids
    (questions, bank.missing (.ofIds ids)) = picked ∧
      (∀ id, (questions.map Question.id ++ bank.missing (.ofIds ids)).count id =
        if id ∈ ids then 1 else 0) ∧
      ∀ (a : Press.Assembler) (t : Files.FileTree) (title : String),
        a.source title questions =
            a.template.fillExam title (picked.1.map Markup.Fragment.ofQuestion) ∧
          (a.assemble t title questions).1.map Press.CompiledExam.questionCount =
            (a.assemble t title questions).1.map fun _ => picked.1.length := by
  intro bank questions picked
  have hpicked : (questions, bank.missing (.ofIds ids)) = picked := by
    rw [select_missing_eq_pick, find?_insertAll_empty]
  have hquestions : questions = picked.1 := congrArg Prod.fst hpicked
  refine ⟨hpicked, bank.count_select_missing ids, fun a t title => ⟨?_, ?_⟩⟩
  · rw [← hquestions]
    rfl
  · rw [← hquestions]
    exact a.map_questionCount_assemble t title questions

end Bank

end ExamPress
