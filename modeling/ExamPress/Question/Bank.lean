import ExamPress.Question.Record

/-!
# The question bank

All questions, one for each id, in the order of their ids.

## What is here

* `Bank` — the questions; `Bank.insert` adds one, in place of an older one with the same id;
* `Bank.find?` — the question with an id;
* `Bank.select` — the questions of a selection, in its order;
* `Bank.missing` — the selected ids that are not there.
-/

set_option autoImplicit false

namespace ExamPress

/-- **A question bank**: questions in ascending order of their ids. -/
structure Bank where
  questions : List Question
  ascending : questions.Pairwise (·.id < ·.id)

namespace Bank

/-- The bank without questions. -/
def empty : Bank := ⟨[], .nil⟩

/-- The number of questions. -/
def size (b : Bank) : Nat := b.questions.length

/-- The question with an id. -/
def find? (b : Bank) (id : QuestionId) : Option Question := b.questions.find? (·.id = id)

/-- A question in its place among others; it takes the place of one with the same id. -/
def place (q : Question) : List Question → List Question
  | [] => [q]
  | p :: ps =>
    if q.id < p.id then q :: p :: ps
    else if q.id = p.id then q :: ps
    else p :: place q ps

theorem mem_of_mem_place {q r : Question} {ps : List Question} (h : r ∈ place q ps) :
    r = q ∨ r ∈ ps := by
  induction ps with
  | nil => simpa [place] using h
  | cons p ps ih =>
    rw [place] at h
    split at h
    · simpa using h
    · split at h
      · rcases List.mem_cons.mp h with h | h
        · exact .inl h
        · exact .inr (List.mem_cons_of_mem _ h)
      · rcases List.mem_cons.mp h with h | h
        · exact .inr (h ▸ List.mem_cons_self)
        · exact (ih h).imp id (List.mem_cons_of_mem _)

theorem place_ascending {q : Question} {ps : List Question} (h : ps.Pairwise (·.id < ·.id)) :
    (place q ps).Pairwise (·.id < ·.id) := by
  induction ps with
  | nil => simp [place]
  | cons p ps ih =>
    obtain ⟨hp, hps⟩ := List.pairwise_cons.mp h
    rw [place]
    split
    · next hlt =>
      refine List.pairwise_cons.mpr ⟨fun r hr => ?_, h⟩
      rcases List.mem_cons.mp hr with rfl | hr
      · exact hlt
      · exact Int64.lt_trans hlt (hp r hr)
    · next hlt =>
      split
      · next heq => exact List.pairwise_cons.mpr ⟨fun r hr => heq ▸ hp r hr, hps⟩
      · next heq =>
        refine List.pairwise_cons.mpr ⟨fun r hr => ?_, ih hps⟩
        rcases mem_of_mem_place hr with rfl | hr
        · have hne : r.id.toInt ≠ p.id.toInt := fun e => heq (Int64.toInt_inj.mp e)
          rw [Int64.lt_iff_toInt_lt] at hlt ⊢
          omega
        · exact hp r hr

/-- **The bank with one more question.**  It takes the place of an older one with the same id. -/
def insert (b : Bank) (q : Question) : Bank := ⟨place q b.questions, place_ascending b.ascending⟩

/-- The bank with more questions, the later ones in place of the earlier. -/
def insertAll (b : Bank) (qs : List Question) : Bank := qs.foldl insert b

/-- **The questions of a selection**, in its order. -/
def select (b : Bank) (s : Selection) : List Question :=
  s.sortBy Question.id (b.questions.filter fun q => s.contains q.id)

/-- The selected ids that have no question. -/
def missing (b : Bank) (s : Selection) : List QuestionId :=
  s.ids.filter fun id => (b.find? id).isNone

end Bank

end ExamPress
