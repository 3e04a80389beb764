import ExamPress.Batch.Run
import ExamPress.Proofs.Batch.Delivery
import ExamPress.Proofs.Press.Room

/-!
# Jobs do not influence each other

The jobs of a batch share the tree of files, and each of them changes it: an exam is written, with
folders on the way to it, or the failure log grows.  Whether a job is delivered, and with what,
depends on the tree in two respects only.  There has to be room for a scratch folder; and the places
that the path of the exam goes through, and the one that it leads to, have to be as they should.
So jobs do not influence each other when their exams, and the log, are kept apart from these places.

It is not enough that no file of a batch is to lie below another.  Where a path goes up again by
`..`, it also goes through places that the file does not lie below, and a file of another job at one
of these is in its way.

## What is here

* `Touched` — what jobs may have changed, with `touched_perform` for one and `touched_performAll`
  for all;
* `room_performAll` — jobs neither make nor take away the room for scratch folders;
* `Writes`, `perform_of_writes`, `perform_of_not_writes` — what a job alone comes to;
* `Separate` — jobs that are kept apart, and `performAll_independent` — the theorem;
* `performAll_crossing` — two jobs whose files lie apart, and of which one is in the other's way.
-/

set_option autoImplicit false

namespace ExamPress.Workshop

open ExamPress.Files
open ExamPress.Batch (performAll)

variable {w : Workshop} {job : Job} {jobs more : List Job} {t t' t'' : FileTree}

/-! ## What jobs change -/

/-- **What jobs may have changed.** -/
structure Touched (w : Workshop) (jobs : List Job) (t t' : FileTree) : Prop where
  workingFolder : t'.workingFolder = t.workingFolder
  /-- Folders are kept. -/
  kept : ∀ place, t.at? place = some .folder → t'.at? place = some .folder
  /-- New folders lie on the way to an exam. -/
  folders : ∀ place, t'.at? place = some .folder →
    t.at? place = some .folder ∨ ∃ job ∈ jobs, place ∈ foldersOf t (w.outputPath job)
  /-- The files are the same, but for exams and the log. -/
  files : ∀ place, t'.fileAt? place = t.fileAt? place ∨ place = w.logPlace t ∨
    ∃ job ∈ jobs, place = w.examPlace job t

theorem foldersOf_congr (h : t'.workingFolder = t.workingFolder) (path : String) :
    foldersOf t' path = foldersOf t path := by
  rw [foldersOf, foldersOf]
  cases Path.parent? path with
  | none => rfl
  | some parent => exact List.map_congr_left fun b _ => FileTree.destination_congr h b

namespace Touched

theorem refl (w : Workshop) (jobs : List Job) (t : FileTree) : w.Touched jobs t t :=
  ⟨rfl, fun _ => id, fun _ => .inl, fun _ => .inl rfl⟩

theorem mono (h : w.Touched jobs t t') (hsub : jobs ⊆ more) : w.Touched more t t' := by
  refine ⟨h.workingFolder, h.kept, fun place hfolder => (h.folders place hfolder).imp_right ?_,
    fun place => (h.files place).imp_right (Or.imp_right ?_)⟩
  all_goals
    rintro ⟨job, hjob, hplace⟩
    exact ⟨job, hsub hjob, hplace⟩

theorem logPlace_eq (h : w.Touched jobs t t') : w.logPlace t' = w.logPlace t :=
  FileTree.destination_congr h.workingFolder _

theorem examPlace_eq (h : w.Touched jobs t t') (job : Job) :
    w.examPlace job t' = w.examPlace job t :=
  FileTree.destination_congr h.workingFolder _

/-- The working folder stays where it is. -/
theorem rooted (h : w.Touched jobs t t') (hroot : t.Rooted t.workingFolder) :
    t'.Rooted t'.workingFolder := by
  rw [h.workingFolder]
  exact fun above habove => h.kept _ (hroot above habove)

theorem trans (h : w.Touched jobs t t') (h' : w.Touched jobs t' t'') : w.Touched jobs t t'' := by
  refine ⟨h'.workingFolder.trans h.workingFolder, fun place hfolder => h'.kept _ (h.kept _ hfolder),
    fun place hfolder => ?_, fun place => ?_⟩
  · rcases h'.folders place hfolder with hold | hnew
    · exact h.folders place hold
    · simp only [foldersOf_congr h.workingFolder] at hnew
      exact .inr hnew
  · rcases h'.files place with hsame | hplace
    · rw [hsame]
      exact h.files place
    · simp only [h.logPlace_eq, h.examPlace_eq] at hplace
      exact .inr hplace

/-- A place that is none of those of the exams and the log keeps its file. -/
theorem fileAt?_eq {place : Place} (h : w.Touched jobs t t') (hlog : place ≠ w.logPlace t)
    (hexams : ∀ job ∈ jobs, place ≠ w.examPlace job t) : t'.fileAt? place = t.fileAt? place := by
  refine (h.files place).resolve_right ?_
  rintro (heq | ⟨job, hjob, heq⟩)
  · exact hlog heq
  · exact hexams job hjob heq

/-- **A place that is none of those of the exams and the log** is as it was, or it is that of a new
folder on the way to an exam. -/
theorem at?_cases {place : Place} (h : w.Touched jobs t t') (hlog : place ≠ w.logPlace t)
    (hexams : ∀ job ∈ jobs, place ≠ w.examPlace job t) :
    t'.at? place = t.at? place ∨ t.at? place = none ∧ t'.at? place = some .folder ∧
      ∃ job ∈ jobs, place ∈ foldersOf t (w.outputPath job) := by
  have hfile := h.fileAt?_eq hlog hexams
  cases hat : t.at? place with
  | none =>
    have hnofile : t'.fileAt? place = none := by
      rw [hfile, FileTree.fileAt?, FileTree.contentAt, hat]
      rfl
    rcases FileTree.at?_of_fileAt?_eq_none hnofile with hnone | hfolder
    · exact .inl hnone
    · exact .inr ⟨rfl, hfolder, (h.folders _ hfolder).resolve_left (by simp [hat])⟩
  | some entry =>
    left
    cases entry with
    | folder => exact h.kept _ hat
    | file content =>
      rw [← FileTree.fileAt?_eq_some_iff] at hat ⊢
      rw [hfile, hat]

end Touched

/-- Making folders on the way to an exam. -/
theorem touched_of_furnished
    (h : FileTree.Furnished t t' (foldersOf t (w.outputPath job))) : w.Touched [job] t t' := by
  refine ⟨h.workingFolder, fun place => h.folder, fun place hfolder => ?_,
    fun place => .inl (h.fileAt?_eq place)⟩
  rcases h.kept place with hsame | ⟨hmem, -, -⟩
  · exact .inl (hsame ▸ hfolder)
  · exact .inr ⟨job, List.mem_singleton_self job, hmem⟩

/-- A change of one file, at a place where there is no folder. -/
theorem touched_of_file {place : Place} (hstart : t'.workingFolder = t.workingFolder)
    (hfolders : ∀ other, t'.at? other = some .folder ↔ t.at? other = some .folder)
    (hothers : ∀ other ≠ place, t'.at? other = t.at? other)
    (hplace : place = w.logPlace t ∨ ∃ job ∈ jobs, place = w.examPlace job t) :
    w.Touched jobs t t' := by
  refine ⟨hstart, fun other => (hfolders other).mpr, fun other h => .inl ((hfolders other).mp h),
    fun other => ?_⟩
  by_cases hother : other = place
  · exact .inr (hother ▸ hplace)
  · exact .inl (FileTree.fileAt?_congr (hothers other hother))

/-- Noting a failure makes no folder and takes none away. -/
theorem folder_noteFailure_iff (reason : String) (diagnostics : Option String) (place : Place) :
    (w.noteFailure t job reason diagnostics).at? place = some .folder ↔
      t.at? place = some .folder := by
  rcases noteFailure_cases w job t reason diagnostics with happend | ⟨-, hsame⟩
  · exact FileTree.folder_append_iff happend place
  · rw [hsame]

/-- **Noting a failure touches the log.** -/
theorem touched_noteFailure (reason : String) (diagnostics : Option String) :
    w.Touched jobs t (w.noteFailure t job reason diagnostics) := by
  rcases noteFailure_cases w job t reason diagnostics with happend | ⟨-, hsame⟩
  · exact touched_of_file (FileTree.workingFolder_append happend)
      (FileTree.folder_append_iff happend)
      (fun other hother => FileTree.at?_append_of_ne happend hother) (.inl rfl)
  · rw [hsame]
    exact .refl w jobs t

/-- **Delivering touches the exam and the folders on the way to it.** -/
theorem touched_deliver (w : Workshop) (job : Job) (t : FileTree) (pdf : ByteArray) :
    w.Touched [job] t (deliver t (w.outputPath job) pdf).2 := by
  obtain ⟨furnished, hfurnished, hdeliver | ⟨parent, fault, -, -, hdeliver⟩⟩ :=
    deliver_cases t (w.outputPath job) pdf
  · have hfirst := touched_of_furnished hfurnished
    rw [hdeliver, writeExam]
    cases hwrite : furnished.write (w.outputPath job) pdf with
    | error fault => exact hfirst
    | ok written =>
      obtain ⟨place, htarget, rfl⟩ := FileTree.write_eq_ok hwrite
      have hplace := FileTree.eq_destination_of_fileTarget htarget
      have hnot := (FileTree.fileTarget_eq_ok htarget).2.2
      refine hfirst.trans (touched_of_file rfl (FileTree.folder_put_iff hnot)
        (fun other hother => FileTree.at?_put_of_ne _ hother _) (.inr ⟨job, ?_, hplace⟩))
      exact List.mem_singleton_self job
  · rw [hdeliver]
    exact touched_of_furnished hfurnished

/-- **What one job touches.** -/
theorem touched_perform (w : Workshop) (job : Job) (t : FileTree) :
    w.Touched [job] t (w.perform job t).2 := by
  rcases perform_cases w job t with ⟨reason, diagnostics, -, hperform⟩ | ⟨-, exam, -, hperform⟩
  · rw [hperform]
    exact touched_noteFailure reason diagnostics
  · rw [hperform]
    have htouched := touched_deliver w job t exam.pdf
    rcases hdeliver : deliver t (w.outputPath job) exam.pdf with ⟨_ | _, t'⟩ <;>
      rwa [hdeliver] at htouched

/-- **What jobs touch**, one after the other. -/
theorem touched_performAll (w : Workshop) (jobs : List Job) (t : FileTree) :
    w.Touched jobs t (performAll w jobs t).2 := by
  induction jobs generalizing t with
  | nil => exact .refl w [] t
  | cons job jobs ih =>
    have hfirst : w.Touched (job :: jobs) t (w.perform job t).2 :=
      (touched_perform w job t).mono (by simp)
    exact hfirst.trans ((ih _).mono (List.subset_cons_self job jobs))

/-! ## The room for scratch folders -/

/-- A job neither makes the room for scratch folders nor takes it away: where there is none, no exam
is made, and no folder for one. -/
theorem room_perform (w : Workshop) (job : Job) (t : FileTree) :
    Press.Scratch.Room (w.perform job t).2 w.assembler.scratchRoot ↔
      Press.Scratch.Room t w.assembler.scratchRoot := by
  have htouched := touched_perform w job t
  refine ⟨fun h => ?_, fun h => h.of_folders htouched.workingFolder htouched.kept⟩
  rcases perform_cases w job t with ⟨reason, diagnostics, -, hperform⟩ | ⟨-, exam, hexam, -⟩
  · rw [hperform] at h htouched
    exact h.of_folders htouched.workingFolder.symm fun place =>
      (folder_noteFailure_iff reason diagnostics place).mp
  · obtain ⟨source, s, made, written, -, hmade, hwritten, -⟩ := w.assembler.course_eq_ok hexam
    exact (Press.Scratch.exists_written_iff source).mp ⟨s, made, written, hmade, hwritten⟩

/-- **Jobs neither make the room for scratch folders nor take it away.** -/
theorem room_performAll (w : Workshop) (jobs : List Job) (t : FileTree) :
    Press.Scratch.Room (performAll w jobs t).2 w.assembler.scratchRoot ↔
      Press.Scratch.Room t w.assembler.scratchRoot := by
  induction jobs generalizing t with
  | nil => exact Iff.rfl
  | cons job jobs ih => exact (ih _).trans (room_perform w job t)

/-! ## One job -/

/-- **A job writes an exam**: there are questions, the exam is made of them, and it can be
delivered. -/
def Writes (w : Workshop) (job : Job) (t : FileTree) (pdf : ByteArray) : Prop :=
  (∃ id ∈ job.questions, w.bank.find? id ≠ none) ∧
    (∃ exam, (w.course job t).result = .ok exam ∧ exam.pdf = pdf) ∧
    Deliverable t (w.outputPath job)

theorem perform_of_writes (hroot : t.Rooted t.workingFolder) {pdf : ByteArray}
    (h : w.Writes job t pdf) : (w.perform job t).1 = .delivered ∧
      (w.perform job t).2.fileAt? (w.examPlace job t) = some pdf := by
  obtain ⟨⟨id, hid, hfound⟩, ⟨exam, hexam, rfl⟩, hdeliverable⟩ := h
  rcases perform_cases w job t with ⟨reason, diagnostics, hsetback, -⟩ |
    ⟨-, exam', hexam', hperform⟩
  · cases hsetback with
    | nothingSelected hnone => exact absurd (hnone id hid) hfound
    | notMade _ hfault =>
      rw [assemble_eq_course, hexam] at hfault
      cases hfault
  · obtain rfl : exam = exam' := Except.ok.inj (hexam.symm.trans hexam')
    obtain ⟨t', hdeliver⟩ := (deliver_eq_ok_iff hroot exam.pdf).mpr hdeliverable
    rw [hperform, hdeliver]
    exact ⟨rfl, fileAt?_of_deliver hdeliver⟩

theorem perform_of_not_writes (hroot : t.Rooted t.workingFolder)
    (hplaces : w.examPlace job t ≠ w.logPlace t) (h : ∀ pdf, ¬w.Writes job t pdf) :
    (w.perform job t).1 ≠ .delivered ∧
      (w.perform job t).2.fileAt? (w.examPlace job t) = t.fileAt? (w.examPlace job t) := by
  rcases perform_cases w job t with ⟨reason, diagnostics, -, hperform⟩ |
    ⟨hsome, exam, hexam, hperform⟩
  · have htouched : w.Touched [] t (w.noteFailure t job reason diagnostics) :=
      touched_noteFailure reason diagnostics
    rw [hperform]
    exact ⟨nofun, htouched.fileAt?_eq hplaces nofun⟩
  · have hnot : (verdictOf (deliver t (w.outputPath job) exam.pdf)).1 ≠ .delivered := by
      intro hdelivered
      refine h exam.pdf ⟨hsome, ⟨exam, hexam, rfl⟩, (deliver_eq_ok_iff hroot exam.pdf).mp ?_⟩
      rcases hdeliver : deliver t (w.outputPath job) exam.pdf with ⟨_ | _, t'⟩
      · rw [hdeliver] at hdelivered
        cases hdelivered
      · exact ⟨t', rfl⟩
    rw [hperform]
    refine ⟨hnot, ?_⟩
    rcases delivered_or_undeliverable hplaces hexam with hd | hu
    · exact absurd hd.verdict hnot
    · exact hu.files _

/-! ## Jobs that are kept apart -/

/-- **Two jobs are kept apart**: their exams are two files, and neither lies on the way of the
other. -/
structure Apart (w : Workshop) (t : FileTree) (job other : Job) : Prop where
  files : w.examPlace other t ≠ w.examPlace job t
  way : w.examPlace other t ∉ foldersOf t (w.outputPath job)
  way' : w.examPlace job t ∉ foldersOf t (w.outputPath other)

/-- **The log is kept apart from a job.** -/
structure ApartFromLog (w : Workshop) (t : FileTree) (job : Job) : Prop where
  files : w.examPlace job t ≠ w.logPlace t
  way : w.logPlace t ∉ foldersOf t (w.outputPath job)

/-- **Jobs that are kept apart**, from each other and from the log. -/
structure Separate (w : Workshop) (t : FileTree) (jobs : List Job) : Prop where
  pairs : jobs.Pairwise (w.Apart t)
  log : ∀ job ∈ jobs, w.ApartFromLog t job

theorem Apart.symm {other : Job} (h : w.Apart t job other) : w.Apart t other job :=
  ⟨h.files.symm, h.way', h.way⟩

variable {work : List (Place × Entry) → Press.Run}

/-- What a job writes is not changed by jobs that are kept apart from it. -/
theorem writes_iff_of_touched (hwork : w.assembler.GoesByContents work)
    (hroot : t.Rooted t.workingFolder) (h : w.Touched jobs t t')
    (hroom : Press.Scratch.Room t' w.assembler.scratchRoot ↔
      Press.Scratch.Room t w.assembler.scratchRoot)
    (hlog : w.ApartFromLog t job) (hapart : ∀ other ∈ jobs, w.Apart t job other)
    (pdf : ByteArray) : w.Writes job t' pdf ↔ w.Writes job t pdf := by
  have hroot' := h.rooted hroot
  have hmade : ∀ exam, (w.course job t').result = .ok exam ↔ (w.course job t).result = .ok exam :=
    fun exam => by
      rw [course, course, Press.Assembler.result_course_eq_ok_iff hwork,
        Press.Assembler.result_course_eq_ok_iff hwork, hroom]
  have hway : ∀ place ∈ foldersOf t (w.outputPath job), t'.fileAt? place = t.fileAt? place :=
    fun place hplace => h.fileAt?_eq (fun heq => hlog.way (heq ▸ hplace))
      fun other hother heq => (hapart other hother).way (heq ▸ hplace)
  have hplace : t'.at? (w.examPlace job t) = some .folder ↔
      t.at? (w.examPlace job t) = some .folder := by
    refine ⟨fun hfolder => (h.folders _ hfolder).resolve_right ?_, h.kept _⟩
    rintro ⟨other, hother, hmem⟩
    exact (hapart other hother).way' hmem
  rw [Writes, Writes, Deliverable.congr hroot hroot' h.workingFolder hway hplace]
  simp only [hmade]

/-! ## All jobs -/

theorem performAll_cons (w : Workshop) (job : Job) (jobs : List Job) (t : FileTree) :
    performAll w (job :: jobs) t =
      ((w.perform job t).1 :: (performAll w jobs (w.perform job t).2).1,
        (performAll w jobs (w.perform job t).2).2) := rfl

theorem performAll_append (w : Workshop) (jobs more : List Job) (t : FileTree) :
    performAll w (jobs ++ more) t =
      ((performAll w jobs t).1 ++ (performAll w more (performAll w jobs t).2).1,
        (performAll w more (performAll w jobs t).2).2) := by
  induction jobs generalizing t with
  | nil => rfl
  | cons job jobs ih =>
    rw [List.cons_append, performAll_cons, ih, performAll_cons]
    rfl

theorem length_performAll (w : Workshop) (jobs : List Job) (t : FileTree) :
    (performAll w jobs t).1.length = jobs.length := by
  induction jobs generalizing t with
  | nil => rfl
  | cons job jobs ih => exact congrArg (· + 1) (ih _)

/-- The verdict on a job is that of its turn. -/
theorem getElem?_performAll (w : Workshop) (before : List Job) (job : Job) (after : List Job)
    (t : FileTree) : (performAll w (before ++ job :: after) t).1[before.length]? =
      some (w.perform job (performAll w before t).2).1 := by
  rw [performAll_append, List.getElem?_append_right (by rw [length_performAll]),
    length_performAll, Nat.sub_self]
  rfl

/-- The file of a job is left as it is after its turn, where the later jobs are kept apart. -/
theorem fileAt?_performAll (before : List Job) {after : List Job} (hlog : w.ApartFromLog t job)
    (hapart : ∀ other ∈ after, w.Apart t job other) :
    (performAll w (before ++ job :: after) t).2.fileAt? (w.examPlace job t) =
      (w.perform job (performAll w before t).2).2.fileAt? (w.examPlace job t) := by
  have hfound := touched_performAll w before t
  rw [performAll_append, performAll_cons]
  generalize (performAll w before t).2 = reached at hfound ⊢
  have hjob := touched_perform w job reached
  refine (touched_performAll w after _).fileAt?_eq ?_ fun other hother => ?_
  · rw [hjob.logPlace_eq, hfound.logPlace_eq]
    exact hlog.files
  · rw [hjob.examPlace_eq, hfound.examPlace_eq]
    exact (hapart other hother).files.symm

/-- **Jobs do not influence each other.**  Where the program goes by the contents of its folder, and
the jobs of a batch are kept apart from each other and from the log, each of them is delivered in
the batch just when it is delivered alone, and its file holds the same afterwards. -/
theorem performAll_independent (w : Workshop) (s : Settings) (t : FileTree) (jobs : List Job)
    (work : List (Place × Entry) → Press.Run) (hwork : w.assembler.GoesByContents work)
    (hroot : t.Rooted t.workingFolder) (hjobs : s.jobs t = .ok jobs)
    (hseparate : w.Separate t jobs) :
    let batch := performAll w jobs t
    Batch.work s w t = (.ok (.ofVerdicts batch.1), batch.2) ∧
      ∀ before job after, jobs = before ++ job :: after →
        let alone := performAll w [job] t
        (batch.1[before.length]? = some .delivered ↔ alone.1 = [.delivered]) ∧
          batch.2.fileAt? (w.examPlace job t) = alone.2.fileAt? (w.examPlace job t) := by
  refine ⟨by rw [Batch.work, hjobs], ?_⟩
  rintro before job after rfl
  obtain ⟨hbefore, hrest, hacross⟩ := List.pairwise_append.mp hseparate.pairs
  have hlog := hseparate.log job (by simp)
  have hapart : ∀ other ∈ before, w.Apart t job other :=
    fun other hother => (hacross other hother job (by simp)).symm
  have hapart' : ∀ other ∈ after, w.Apart t job other := (List.pairwise_cons.mp hrest).1
  -- the tree that the job finds in the batch
  have hfound := touched_performAll w before t
  generalize hreached : (performAll w before t).2 = reached at hfound
  have hroom := hreached ▸ room_performAll w before t
  have hroot' := hfound.rooted hroot
  have hwrites := writes_iff_of_touched hwork hroot hfound hroom hlog hapart
  -- what the batch comes to
  have hverdict := getElem?_performAll w before job after t
  have hfile := fileAt?_performAll before hlog hapart'
  rw [hreached] at hverdict hfile
  have halone : performAll w [job] t = ([(w.perform job t).1], (w.perform job t).2) := rfl
  dsimp only
  rw [hverdict, hfile, halone, ← hfound.examPlace_eq job]
  by_cases hexam : ∃ pdf, w.Writes job t pdf
  · obtain ⟨pdf, hpdf⟩ := hexam
    obtain ⟨hdelivered, hheld⟩ := perform_of_writes hroot hpdf
    obtain ⟨hdelivered', hheld'⟩ := perform_of_writes hroot' ((hwrites pdf).mpr hpdf)
    rw [hdelivered, hdelivered', hheld', hfound.examPlace_eq, hheld]
    simp
  · rw [not_exists] at hexam
    have hexam' : ∀ pdf, ¬w.Writes job reached pdf := fun pdf => mt (hwrites pdf).mp (hexam pdf)
    have hplaces : w.examPlace job reached ≠ w.logPlace reached := by
      rw [hfound.examPlace_eq, hfound.logPlace_eq]
      exact hlog.files
    obtain ⟨hnot, hheld⟩ := perform_of_not_writes hroot hlog.files hexam
    obtain ⟨hnot', hheld'⟩ := perform_of_not_writes hroot' hplaces hexam'
    rw [hheld', hfound.examPlace_eq, hheld]
    refine ⟨by simp [hnot, hnot'], hfound.fileAt?_eq hlog.files fun other hother => ?_⟩
    exact (hapart other hother).files.symm

/-! ## Two jobs -/

/-- What a program does that hands out the source as the PDF. -/
def copying (contents : List (Place × Entry)) : Press.Run :=
  { ending := .exited 0
    contents := match contents.lookup [Press.Scratch.sourceName] with
      | some source => (["exam.pdf"], source) :: contents
      | none => contents }

/-- A workshop with one question and with such a program. -/
def copyShop : Workshop where
  bank := Bank.empty.insert { id := 7, document := .document [], sourceLabel := .document [] }
  assembler :=
    { template := ⟨[.text "\\question".toList]⟩
      program := fun request => copying request.contents }
  outputFolder := "output_pdf"
  failureLog := "failed_exams.txt"

/-- Exams one at a time. -/
def oneAtATime : Settings where
  maxConcurrentExams := 1

/-- A job with the question. -/
def copyJob (title output : String) : Job := { title, questions := [7], output }

/-- The file of a job. -/
def jobText (title output : String) : String :=
  "title = \"" ++ title ++ "\"\nquestions = [7]\noutput = \"" ++ output ++ "\"\n"

/-- The files before: two jobs, the second with a given path for its exam. -/
def desk (output : String) : FileTree where
  entries :=
    [(["tmp"], .folder), (["exams"], .folder),
      (["exams", "a.toml"], .file (jobText "A" "d").toUTF8),
      (["exams", "b.toml"], .file (jobText "B" output).toUTF8)]

theorem rooted_desk (output : String) : (desk output).Rooted (desk output).workingFolder := by
  intro above habove
  rw [List.prefix_nil.mp habove]
  rfl

/-- Two jobs are found in their files. -/
theorem jobs_twoFiles {t : FileTree} {first second : Job} (hexists : t.pathExists "exams" = true)
    (hlist : t.list "exams" = .ok ["a.toml", "b.toml"])
    (hfirst : Job.fileIn? t "exams/a.toml" = some ("exams/a.toml", first))
    (hsecond : Job.fileIn? t "exams/b.toml" = some ("exams/b.toml", second)) :
    oneAtATime.jobs t = .ok [first, second] := by
  have hnames : Toml.tomlNames ["a.toml", "b.toml"] = ["a.toml", "b.toml"] :=
    List.mergeSort_of_pairwise (by decide)
  have hpaths : Toml.paths t "exams" = .ok ["exams/a.toml", "exams/b.toml"] := by
    rw [Toml.paths, if_pos hexists, hlist]
    dsimp only
    rw [hnames]
    rfl
  have hall : Job.loadAll t "exams" =
      .ok [("exams/a.toml", first), ("exams/b.toml", second)] := by
    rw [Job.loadAll, hpaths, ok_bind]
    simp only [List.filterMap_cons, List.filterMap_nil, hfirst, hsecond]
  rw [Settings.jobs]
  simp only [oneAtATime, hexists, hall, ok_bind, if_true]
  rfl

/-- The two jobs of the files before. -/
theorem jobs_desk {output : String}
    (hfirst : Job.fileIn? (desk output) "exams/a.toml" = some ("exams/a.toml", copyJob "A" "d"))
    (hsecond : Job.fileIn? (desk output) "exams/b.toml" =
      some ("exams/b.toml", copyJob "B" output)) :
    oneAtATime.jobs (desk output) = .ok [copyJob "A" "d", copyJob "B" output] :=
  jobs_twoFiles rfl rfl hfirst hsecond

/-- A path that goes up again may lead past the exam of another job. -/
theorem performAll_independent_twoJobs :
    let t := desk "x/../e.pdf"
    let jobs := [copyJob "A" "d", copyJob "B" "x/../e.pdf"]
    copyShop.assembler.GoesByContents copying ∧ t.Rooted t.workingFolder ∧
      oneAtATime.jobs t = .ok jobs ∧ copyShop.Separate t jobs ∧
      (performAll copyShop jobs t).1[1]? = some .delivered := by
  intro t jobs
  have hwork : copyShop.assembler.GoesByContents copying := fun _ => rfl
  have hjobs : oneAtATime.jobs t = .ok jobs :=
    jobs_desk (by decide +kernel) (by decide +kernel)
  have hseparate : copyShop.Separate t jobs := by
    constructor
    · refine List.pairwise_pair.mpr ⟨?_, ?_, ?_⟩ <;> decide +kernel
    · refine List.forall_mem_cons.mpr ⟨⟨?_, ?_⟩, List.forall_mem_singleton.mpr ⟨?_, ?_⟩⟩ <;>
        decide +kernel
  refine ⟨hwork, rooted_desk _, hjobs, hseparate, ?_⟩
  have halone : (performAll copyShop [copyJob "B" "x/../e.pdf"] t).1 = [.delivered] := by
    decide +kernel
  have h := performAll_independent copyShop oneAtATime t jobs copying hwork (rooted_desk _) hjobs
    hseparate
  exact ((h.2 [copyJob "A" "d"] _ [] rfl).1).mpr halone

/-- **Files that lie apart**: none of the exams is, or lies below, another, or one of some other
places, and none of these lies below it. -/
structure FilesApart (w : Workshop) (t : FileTree) (jobs : List Job) (others : List Place) :
    Prop where
  pairs : jobs.Pairwise fun job other =>
    ¬w.examPlace job t <+: w.examPlace other t ∧ ¬w.examPlace other t <+: w.examPlace job t
  others : ∀ job ∈ jobs, ∀ place ∈ others,
    ¬w.examPlace job t <+: place ∧ ¬place <+: w.examPlace job t

/-- The place of the first exam lies on the way of the path of the second, which goes up again and
leads to a file that lies apart.  Alone, the second job is delivered, and after the first it is
not. -/
theorem performAll_crossing :
    let t := desk "x/../d/../e.pdf"
    let second := copyJob "B" "x/../d/../e.pdf"
    let jobs := [copyJob "A" "d", second]
    copyShop.assembler.GoesByContents copying ∧ t.Rooted t.workingFolder ∧
      oneAtATime.jobs t = .ok jobs ∧
      copyShop.FilesApart t jobs [copyShop.logPlace t,
        t.destination copyShop.assembler.scratchRoot,
        t.destination oneAtATime.questionBankFolder, t.destination oneAtATime.examFolder] ∧
      (performAll copyShop [second] t).1 = [.delivered] ∧
      (performAll copyShop jobs t).1[1]? ≠ some .delivered ∧
      (performAll copyShop [second] t).2.fileAt? (copyShop.examPlace second t) ≠ none ∧
      (performAll copyShop jobs t).2.fileAt? (copyShop.examPlace second t) = none := by
  intro t second jobs
  refine ⟨fun _ => rfl, rooted_desk _, jobs_desk (by decide +kernel) (by decide +kernel),
    ⟨?_, ?_⟩, ?_, ?_, ?_, ?_⟩ <;> decide +kernel

end ExamPress.Workshop
