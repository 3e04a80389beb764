import ExamPress.Proofs.Batch.Independence

/-!
# A batch turn by turn

A batch is a sequence of turns.  The turn of a job finds the files as the turns before have left
them, and leaves them to the turns after.  What is in a file when all is done is told by following
its place from turn to turn: there are only two ways in which a turn can write there, and a turn
that does neither leaves the file as it found it.

## What is here

* `Turn`, `Turn.Performs`, `turns` — the turns of a batch; `performAll_eq_turns` that they are what a batch does;
* `turns_split` — what stands before and after a turn;
* `performs_cases` — how a turn ends, with `write_of_delivered` and `setback_of_failed`;
* `Turn.WritesAt`, `fileAt?_left` — the step; `fileAt?_turns` — the run.
-/

set_option autoImplicit false

namespace ExamPress.Workshop

open ExamPress.Files
open ExamPress.Batch (performAll)

/-- **The turn of a job**: the files that it finds, what becomes of it, and the files that it
leaves. -/
structure Turn where
  job : Job
  found : FileTree
  verdict : Verdict
  left : FileTree

/-- The turn of a job with the files that it finds. -/
def turnOf (w : Workshop) (job : Job) (t : FileTree) : Turn where
  job := job
  found := t
  verdict := (w.perform job t).1
  left := (w.perform job t).2

/-- **The turns of a batch.** -/
def turns (w : Workshop) : List Job → FileTree → List Turn
  | [], _ => []
  | job :: jobs, t => w.turnOf job t :: turns w jobs (w.turnOf job t).left

variable {w : Workshop} {jobs : List Job} {t : FileTree} {turn : Turn} {place : Place}

/-- A turn is what its job does with the files that it finds. -/
def Turn.Performs (w : Workshop) (turn : Turn) : Prop :=
  w.perform turn.job turn.found = (turn.verdict, turn.left)

theorem performs_turnOf (w : Workshop) (job : Job) (t : FileTree) : (w.turnOf job t).Performs w :=
  (Prod.eta _).symm

theorem turns_cons (w : Workshop) (job : Job) (jobs : List Job) (t : FileTree) :
    w.turns (job :: jobs) t = w.turnOf job t :: w.turns jobs (w.perform job t).2 := rfl

/-- Each job has its turn. -/
theorem map_job_turns (w : Workshop) (jobs : List Job) (t : FileTree) :
    (w.turns jobs t).map (·.job) = jobs := by
  induction jobs generalizing t with
  | nil => rfl
  | cons job jobs ih => rw [turns_cons, List.map_cons, ih, turnOf]

/-- **The verdicts of a batch are those of its turns.** -/
theorem performAll_eq_turns (w : Workshop) (jobs : List Job) (t : FileTree) :
    (performAll w jobs t).1 = (w.turns jobs t).map (·.verdict) := by
  induction jobs generalizing t with
  | nil => rfl
  | cons job jobs ih => rw [turns_cons, List.map_cons, performAll_cons, ih, turnOf]

/-- What a batch comes to, by its turns. -/
theorem work_eq_turns {s : Settings} (hjobs : s.jobs t = .ok jobs) :
    Batch.work s w t =
      (.ok (.ofVerdicts ((w.turns jobs t).map (·.verdict))), (performAll w jobs t).2) := by
  rw [Batch.work, hjobs, ← performAll_eq_turns]

/-- **What stands before and after a turn**: it finds what the jobs before have left, it is what its
job does then, and the turns after go on from what it leaves. -/
theorem turns_split {before after : List Turn} (h : w.turns jobs t = before ++ turn :: after) :
    ∃ earlier later, jobs = earlier ++ turn.job :: later ∧ before = w.turns earlier t ∧
      turn.found = (performAll w earlier t).2 ∧
      turn.Performs w ∧ after = w.turns later turn.left ∧
      (performAll w jobs t).2 = (performAll w later turn.left).2 := by
  induction before generalizing jobs t with
  | nil =>
    cases jobs with
    | nil => cases h
    | cons job jobs =>
      rw [turns_cons, List.nil_append, List.cons.injEq] at h
      obtain ⟨rfl, rfl⟩ := h
      exact ⟨[], jobs, rfl, rfl, rfl, performs_turnOf w job t, rfl, by rw [performAll_cons]; rfl⟩
  | cons first before ih =>
    cases jobs with
    | nil => cases h
    | cons job jobs =>
      rw [turns_cons, List.cons_append, List.cons.injEq] at h
      obtain ⟨rfl, h⟩ := h
      obtain ⟨earlier, later, rfl, rfl, hfound, hperform, hafter, hlast⟩ := ih h
      refine ⟨job :: earlier, later, rfl, by rw [turns_cons], ?_, hperform, hafter, ?_⟩
      · rw [performAll_cons, hfound]
      · rw [performAll_cons, hlast]

/-- A turn is what its job does with the files that it finds.  These, and what it leaves, have been
touched by jobs of the batch only. -/
theorem of_mem_turns (h : turn ∈ w.turns jobs t) :
    turn.Performs w ∧ w.Touched jobs t turn.found ∧ w.Touched jobs t turn.left := by
  obtain ⟨before, after, hsplit⟩ := List.append_of_mem h
  obtain ⟨earlier, later, rfl, -, hfound, hperform, -, -⟩ := turns_split hsplit
  have htouched : w.Touched (earlier ++ turn.job :: later) t turn.found := by
    rw [hfound]
    exact (touched_performAll w earlier t).mono (List.subset_append_left _ _)
  have hturn := touched_perform w turn.job turn.found
  rw [hperform] at hturn
  exact ⟨hperform, htouched, htouched.trans (hturn.mono (by simp))⟩

/-! ## One turn -/

/-- **How a turn ends**: a setback is noted; or an exam is made and the folders on the way to its
file, and then the file is written, or not. -/
theorem performs_cases (h : turn.Performs w) :
    (turn.verdict = .failed ∧
        ∃ reason diagnostics, w.Setback turn.job turn.found reason diagnostics ∧
          turn.left = w.noteFailure turn.found turn.job reason diagnostics) ∨
      ∃ exam furnished,
        (w.assembler.assemble turn.found turn.job.title (w.questions turn.job)).1 = .ok exam ∧
          FileTree.Furnished turn.found furnished (foldersOf turn.found (w.outputPath turn.job)) ∧
          (turn.verdict = .delivered ∧
              furnished.write (w.outputPath turn.job) exam.pdf = .ok turn.left ∨
            (∃ failure, turn.verdict = .undeliverable failure) ∧ turn.left = furnished) := by
  obtain ⟨job, found, verdict, left⟩ := turn
  dsimp only [Turn.Performs] at h ⊢
  rcases perform_cases w job found with ⟨reason, diagnostics, hsetback, hfailed⟩ |
    ⟨-, exam, hexam, hmade⟩
  · rw [hfailed] at h
    cases h
    exact .inl ⟨rfl, reason, diagnostics, hsetback, rfl⟩
  · obtain ⟨furnished, hfurnished, ⟨written, hwrite, hdeliver⟩ | ⟨failure, hdeliver⟩⟩ :=
      deliver_ends found (w.outputPath job) exam.pdf
    all_goals
      rw [hmade, hdeliver] at h
      cases h
      refine .inr ⟨exam, _, by rw [assemble_eq_course, hexam], hfurnished, ?_⟩
    · exact .inl ⟨rfl, hwrite⟩
    · exact .inr ⟨⟨failure, rfl⟩, rfl⟩

/-- **Behind a turn that was delivered** there is an exam that was made, and it was written. -/
theorem write_of_delivered (hperform : turn.Performs w) (h : turn.verdict = .delivered) :
    ∃ exam furnished,
      (w.assembler.assemble turn.found turn.job.title (w.questions turn.job)).1 = .ok exam ∧
        FileTree.Furnished turn.found furnished (foldersOf turn.found (w.outputPath turn.job)) ∧
        furnished.write (w.outputPath turn.job) exam.pdf = .ok turn.left := by
  rcases performs_cases hperform with ⟨hfailed, -⟩ |
    ⟨exam, furnished, hexam, hfurnished, ⟨-, hwrite⟩ | ⟨⟨failure, hverdict⟩, -⟩⟩
  · exact absurd (h.symm.trans hfailed) (by decide)
  · exact ⟨exam, furnished, hexam, hfurnished, hwrite⟩
  · cases h.symm.trans hverdict

/-- **Behind a turn that failed** there is a setback, and it was noted. -/
theorem setback_of_failed (hperform : turn.Performs w) (h : turn.verdict = .failed) :
    ∃ reason diagnostics, w.Setback turn.job turn.found reason diagnostics ∧
      turn.left = w.noteFailure turn.found turn.job reason diagnostics := by
  rcases performs_cases hperform with ⟨-, hsetback⟩ |
    ⟨-, -, -, -, ⟨hdelivered, -⟩ | ⟨⟨failure, hverdict⟩, -⟩⟩
  · exact hsetback
  · exact absurd (h.symm.trans hdelivered) (by decide)
  · cases h.symm.trans hverdict

/-- **A turn writes at a place**: its exam was delivered there, or it failed and the log is
there. -/
def Turn.WritesAt (w : Workshop) (place : Place) (turn : Turn) : Prop :=
  turn.verdict = .delivered ∧ w.examPlace turn.job turn.found = place ∨
    turn.verdict = .failed ∧ w.logPlace turn.found = place

instance : Decidable (turn.WritesAt w place) := inferInstanceAs (Decidable (_ ∨ _))

/-- **The step**: a file at a place where a turn does not write is left as it was. -/
theorem fileAt?_left (hperform : turn.Performs w) (h : ¬turn.WritesAt w place) :
    turn.left.fileAt? place = turn.found.fileAt? place := by
  rw [Turn.WritesAt, not_or, not_and, not_and] at h
  rcases performs_cases hperform with ⟨hfailed, reason, diagnostics, -, hleft⟩ |
    ⟨exam, furnished, -, hfurnished, ⟨hdelivered, hwrite⟩ | ⟨-, hleft⟩⟩
  · rw [hleft]
    rcases noteFailure_cases w turn.job turn.found reason diagnostics with happend | ⟨-, hsame⟩
    · exact FileTree.fileAt?_congr (FileTree.at?_append_of_ne happend (Ne.symm (h.2 hfailed)))
    · rw [hsame]
  · have hplace : place ≠ furnished.destination (w.outputPath turn.job) := by
      rw [hfurnished.destination_eq]
      exact Ne.symm (h.1 hdelivered)
    rw [FileTree.fileAt?_congr (FileTree.at?_write_of_ne hwrite hplace)]
    exact hfurnished.fileAt?_eq place
  · rw [hleft]
    exact hfurnished.fileAt?_eq place

/-- **The run**: a file at a place where no turn writes is there in the end. -/
theorem fileAt?_turns (h : ∀ turn ∈ w.turns jobs t, ¬turn.WritesAt w place) :
    (performAll w jobs t).2.fileAt? place = t.fileAt? place := by
  induction jobs generalizing t with
  | nil => rfl
  | cons job jobs ih =>
    rw [turns_cons, List.forall_mem_cons] at h
    rw [performAll_cons]
    exact (ih h.2).trans (fileAt?_left (performs_turnOf w job t) h.1)

end ExamPress.Workshop
