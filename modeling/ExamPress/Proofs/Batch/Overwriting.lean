import ExamPress.Proofs.Batch.Turns
import ExamPress.Proofs.Template.Filling

/-!
# The exam that is in a file in the end

Nothing keeps two jobs of a batch from having one file: names are given as one likes, and a name
that is made from a title may be made from another as well.  A file may also be the failure log.
So what is read at the path of an exam in the end need not be the exam.  It is what was written
there last: the exam of the last job that was delivered to the same file, unless a job failed after
that and the log is there.

## What is here

* `work_readsLast` — the theorem: the last turn that writes at the file of an exam decides;
* `EachInItsFile`, `not_eachInItsFile_twoJobs` — exams that are counted and are not in their files.
-/

set_option autoImplicit false

namespace ExamPress.Workshop

open ExamPress.Files
open ExamPress.Batch (performAll)

variable {w : Workshop} {jobs : List Job} {t : FileTree} {turn : Turn}

/-- What jobs leave has been touched by them only. -/
theorem touched_left {before after : List Turn}
    (h : w.turns jobs t = before ++ turn :: after) :
    w.Touched jobs turn.left (performAll w jobs t).2 := by
  obtain ⟨earlier, later, rfl, -, -, -, -, hlast⟩ := turns_split h
  rw [hlast]
  exact (touched_performAll w later turn.left).mono
    (List.subset_append_of_subset_right _ (List.subset_cons_self _ _))

/-- The exam of the last turn that writes at its place is there in the end. -/
theorem fileAt?_of_last {before rest : List Turn} (h : w.turns jobs t = before ++ turn :: rest)
    (hdelivered : turn.verdict = .delivered)
    (hrest : ∀ later ∈ rest, ¬later.WritesAt w (w.examPlace turn.job turn.found)) :
    ∃ exam, (w.assembler.assemble turn.found turn.job.title (w.questions turn.job)).1 = .ok exam ∧
      (performAll w jobs t).2.fileAt? (w.examPlace turn.job turn.found) = some exam.pdf := by
  obtain ⟨earlier, later, -, -, -, hperform, rfl, hlast⟩ := turns_split h
  obtain ⟨exam, furnished, hexam, hfurnished, hwrite⟩ := write_of_delivered hperform hdelivered
  refine ⟨exam, hexam, ?_⟩
  rw [hlast, fileAt?_turns hrest, examPlace, ← hfurnished.destination_eq]
  exact FileTree.fileAt?_write hwrite

/-- **The last that was written is read.**  As many exams are counted as successes as there are
turns that were delivered.  At the path of each of them there is the exam that was made in the last
of the turns that were delivered to the same file, where no later one failed with the log there; so
it is the exam of the job itself, if no later turn has written at the file. -/
theorem work_readsLast (w : Workshop) (s : Settings) (t : FileTree) (jobs : List Job)
    (hjobs : s.jobs t = .ok jobs) :
    let turns := w.turns jobs t
    let r := Batch.work s w t
    r.1 = .ok (.ofVerdicts (turns.map (·.verdict))) ∧
      ∀ before turn after, turns = before ++ turn :: after → turn.verdict = .delivered →
        ∀ between last rest, turn :: after = between ++ last :: rest → last.verdict = .delivered →
          w.examPlace last.job t = w.examPlace turn.job t →
          (∀ later ∈ rest, ¬later.WritesAt w (w.examPlace turn.job t)) →
          ∃ exam,
            (w.assembler.assemble last.found last.job.title (w.questions last.job)).1 = .ok exam ∧
              r.2.read (w.outputPath turn.job) = .ok exam.pdf := by
  intro turns r
  have hwork : r = _ := work_eq_turns hjobs
  refine ⟨by rw [hwork], ?_⟩
  intro before turn after hturn hdelivered between last rest hlast hdelivered' hplace hrest
  have hsplit : turns = (before ++ between) ++ last :: rest := by
    rw [hturn, hlast, List.append_assoc]
  obtain ⟨hperform, -, hleft⟩ := of_mem_turns (show turn ∈ turns by simp [hturn])
  obtain ⟨-, hfound, -⟩ := of_mem_turns (show last ∈ turns by simp [hsplit])
  have hsame : w.examPlace last.job last.found = w.examPlace turn.job t := by
    rw [hfound.examPlace_eq, hplace]
  -- the exam of the last turn is in the file
  rw [← hsame] at hrest
  obtain ⟨exam, hexam, hfile⟩ := fileAt?_of_last hsplit hdelivered' hrest
  refine ⟨exam, hexam, ?_⟩
  -- and what is in the file is read at the path of the turn, which could be read when it was over
  obtain ⟨own, furnished, -, -, hwrite⟩ := write_of_delivered hperform hdelivered
  have hown := FileTree.read_write hwrite
  have hlater := touched_left hturn
  rw [hwork]
  refine FileTree.read_of_fileAt? hown hlater.workingFolder hlater.kept ?_
  rw [← hfile, hsame]
  exact congrArg _ (hleft.examPlace_eq turn.job)

/-! ## Files that are shared -/

/-- Two jobs, each with a file of its own. -/
theorem jobs_ownFiles :
    oneAtATime.jobs (desk "e") = .ok [copyJob "A" "d", copyJob "B" "e"] :=
  jobs_desk (by decide +kernel) (by decide +kernel)

/-- A job with a file of its own leaves it alone that another is delivered after it. -/
theorem work_readsLast_twoJobs :
    let t := desk "e"
    let first := copyJob "A" "d"
    let jobs := [first, copyJob "B" "e"]
    oneAtATime.jobs t = .ok jobs ∧
      ∃ exam, (copyShop.assembler.assemble t "A" (copyShop.questions first)).1 = .ok exam ∧
        (Batch.work oneAtATime copyShop t).2.read (copyShop.outputPath first) = .ok exam.pdf := by
  intro t first jobs
  have hdelivered : (copyShop.perform first t).1 = .delivered := by decide +kernel
  have hrest : ∀ later ∈ copyShop.turns [copyJob "B" "e"] (copyShop.perform first t).2,
      ¬later.WritesAt copyShop (copyShop.examPlace first t) := by
    decide +kernel
  have h := (work_readsLast copyShop oneAtATime t jobs jobs_ownFiles).2 [] _ _
    (turns_cons copyShop first [copyJob "B" "e"] t) hdelivered [] _ _ rfl hdelivered rfl hrest
  exact ⟨jobs_ownFiles, h⟩

/-- **Each exam that is counted is in its file**: what is read at its path in the end is what was
made for its job. -/
def EachInItsFile (s : Settings) (w : Workshop) (t : FileTree) : Prop :=
  ∀ jobs, s.jobs t = .ok jobs → ∀ turn ∈ w.turns jobs t, turn.verdict = .delivered →
    ∃ exam, (w.assembler.assemble turn.found turn.job.title (w.questions turn.job)).1 = .ok exam ∧
      (Batch.work s w t).2.read (w.outputPath turn.job) = .ok exam.pdf

/-- The exam of the first job is not in its file when something else is read there. -/
theorem not_eachInItsFile {s : Settings} {first : Job} {rest : List Job}
    (hjobs : s.jobs t = .ok (first :: rest)) (hdelivered : (w.perform first t).1 = .delivered)
    (hne : ((performAll w (first :: rest) t).2.read (w.outputPath first)).toOption ≠
      (w.assembler.assemble t first.title (w.questions first)).1.toOption.map (·.pdf)) :
    ¬EachInItsFile s w t := by
  intro h
  obtain ⟨exam, hexam, hread⟩ := h _ hjobs _ List.mem_cons_self hdelivered
  rw [work_eq_turns hjobs] at hread
  dsimp only [turnOf] at hread hexam
  refine hne ?_
  rw [hread, hexam]
  rfl

/-- The workshop, with a template that shows the title only. -/
def titleShop : Workshop :=
  { copyShop with
    assembler := { copyShop.assembler with template := ⟨[.marked {} (.showing "title")]⟩ } }

/-- The same, with a program that refuses one of the sources. -/
def strictShop : Workshop :=
  { titleShop with
    assembler :=
      { titleShop.assembler with
        program := fun request =>
          if request.contents.lookup [Press.Scratch.sourceName] = some (.file "B".toUTF8) then
            { ending := .exited 1, contents := request.contents }
          else copying request.contents } }

/-- **Exams that are lost.**  Of two jobs with one file both are counted, and the exam of the first
is not there.  And an exam that is in the file of the log is not there as it was made, once a job
has failed. -/
theorem not_eachInItsFile_twoJobs :
    let logShop := { strictShop with failureLog := "output_pdf/d" }
    (Batch.work oneAtATime titleShop (desk "d")).1 =
        .ok { success := 2, failed := 0, total := 2 } ∧
      ¬EachInItsFile oneAtATime titleShop (desk "d") ∧
      (Batch.work oneAtATime logShop (desk "e")).1 =
        .ok { success := 1, failed := 1, total := 2 } ∧
      ¬EachInItsFile oneAtATime logShop (desk "e") := by
  intro logShop
  have hshared : oneAtATime.jobs (desk "d") = .ok [copyJob "A" "d", copyJob "B" "d"] :=
    jobs_desk (by decide +kernel) (by decide +kernel)
  refine ⟨?_, not_eachInItsFile hshared ?_ ?_, ?_, not_eachInItsFile jobs_ownFiles ?_ ?_⟩
  · rw [work_eq_turns hshared]
    decide +kernel
  · decide +kernel
  · decide +kernel
  · rw [work_eq_turns jobs_ownFiles]
    decide +kernel
  · decide +kernel
  · decide +kernel

end ExamPress.Workshop
