import ExamPress.Batch.Workshop
import ExamPress.Proofs.Files.Change
import ExamPress.Proofs.Press.CleanUp
import ExamPress.Proofs.Press.Stages
import ExamPress.Proofs.Question.Picking

/-!
# What becomes of a job

A job ends in one of three ways, and each of them leaves the files in one state only.  An exam is
delivered: its file holds what the typesetting program left, and the failure log is as before.  Or
it fails: the log has grown by one entry, if it can be written at all, and all else is as before,
an older exam included.  Or it was made and cannot be written: then no file has changed.  There is
nothing in between, such as an exam that is delivered and noted as failed.

The files of the exam and of the log have to be two.  They are told apart by the places that their
paths are about, whether there is anything or not.

## What is here

* `Workshop.Delivered`, `Workshop.Failed`, `Workshop.Undeliverable` — the three ways;
* `Workshop.Setback` — why there is no exam, as it is noted;
* `deliver_cases`, `noteFailure_cases`, `perform_cases` — what each step can do;
* `delivered_or_undeliverable`, `failed_noteFailure` — what comes of it;
* `Workshop.perform_endsInOneWay` — the theorem.
-/

set_option autoImplicit false

namespace ExamPress.Workshop

open ExamPress.Files

variable (w : Workshop) (job : Job) (t : FileTree)

/-! ## The three ways -/

/-- The place of the file that an exam goes to. -/
def examPlace : Place := t.destination (w.outputPath job)

/-- The place of the failure log. -/
def logPlace : Place := t.destination w.failureLog

/-- The places of the folders that a path goes through on the way to its last name. -/
def foldersOf (path : String) : List Place :=
  match Path.parent? path with
  | none => []
  | some parent => (Path.beginnings parent).map t.destination

/-- How the making of the exam of a job goes. -/
def course : Press.Course Press.CompiledExam :=
  w.assembler.course t job.title (w.questions job)

/-- **An exam was delivered.** -/
structure Delivered (r : Verdict × FileTree) : Prop where
  verdict : r.1 = .delivered
  /-- The file of the exam holds what the program left as the file that it was to make. -/
  exam : ∃ request pdf, .start request ∈ (w.course job t).deeds ∧
    (w.assembler.program request).contents.lookup [w.assembler.compiler.artifactName] =
      some (.file pdf) ∧
    r.2.read (w.outputPath job) = .ok pdf
  /-- The log is the same. -/
  log : r.2.fileAt? (w.logPlace t) = t.fileAt? (w.logPlace t)
  /-- Elsewhere there is nothing new but folders that the file lies in. -/
  elsewhere : ∀ place ≠ w.examPlace job t, r.2.at? place = t.at? place ∨
    place ∈ foldersOf t (w.outputPath job) ∧ t.at? place = none ∧ r.2.at? place = some .folder

/-- **Why there is no exam**: the reason that is noted, with what the program said. -/
inductive Setback : String → Option String → Prop
  /-- None of the questions is in the bank. -/
  | nothingSelected (h : ∀ id ∈ job.questions, w.bank.find? id = none) :
    Setback Workshop.nothingSelected none
  /-- Some are, but no exam could be made of them. -/
  | notMade {fault : Press.AssemblyFault} (hsome : ∃ id ∈ job.questions, w.bank.find? id ≠ none)
    (h : (w.assembler.assemble t job.title (w.questions job)).1 = .error fault) :
    Setback fault.message fault.diagnostics?

/-- **An exam could not be made.** -/
structure Failed (r : Verdict × FileTree) : Prop where
  verdict : r.1 = .failed
  /-- The log has one more entry, or it cannot be written and nothing has changed. -/
  log : ∃ reason diagnostics, w.Setback job t reason diagnostics ∧
    (r.2.read w.failureLog = .ok ((t.fileAt? (w.logPlace t)).getD ByteArray.empty ++
        (FailureLog.entry job.title reason diagnostics).toUTF8) ∨
      (∃ failure, FailureLog.note t w.failureLog job.title reason diagnostics = .error failure) ∧
        r.2 = t)
  /-- An older exam is still there. -/
  exam : ∀ pdf, t.read (w.outputPath job) = .ok pdf → r.2.read (w.outputPath job) = .ok pdf
  /-- There are no other folders than before. -/
  folders : ∀ place, r.2.at? place = some .folder ↔ t.at? place = some .folder
  /-- Elsewhere all is the same. -/
  elsewhere : ∀ place ≠ w.logPlace t, r.2.at? place = t.at? place

/-- **An exam was made but could not be written.** -/
structure Undeliverable (r : Verdict × FileTree) : Prop where
  /-- The exam was made; but a folder for its file could not be made, or the file could not be
  written. -/
  verdict : ∃ exam fault, (w.course job t).result = .ok exam ∧
    ((∃ parent, Path.parent? (w.outputPath job) = some parent ∧
        (t.makeFolders parent).1 = .error fault ∧
        r.1 = .undeliverable (.refused .makeOutputFolder parent fault)) ∨
      r.2.write (w.outputPath job) exam.pdf = .error fault ∧
        r.1 = .undeliverable (.refused .writeExam (w.outputPath job) fault))
  /-- All files are the same, the log among them. -/
  files : ∀ place, r.2.fileAt? place = t.fileAt? place
  /-- There is nothing new but folders that the file was to lie in. -/
  elsewhere : ∀ place, r.2.at? place = t.at? place ∨
    place ∈ foldersOf t (w.outputPath job) ∧ t.at? place = none ∧ r.2.at? place = some .folder

variable {w job t}

/-! They exclude each other, since each has its own verdict. -/

theorem Undeliverable.verdict_ne {r : Verdict × FileTree} (h : w.Undeliverable job t r) :
    r.1 ≠ .delivered ∧ r.1 ≠ .failed := by
  obtain ⟨exam, fault, -, ⟨parent, -, -, hverdict⟩ | ⟨-, hverdict⟩⟩ := h.verdict <;>
    simp [hverdict]

theorem Delivered.not_failed {r : Verdict × FileTree} (h : w.Delivered job t r) :
    ¬w.Failed job t r := by
  intro hfailed
  exact absurd (h.verdict.symm.trans hfailed.verdict) (by decide)

theorem Delivered.not_undeliverable {r : Verdict × FileTree} (h : w.Delivered job t r) :
    ¬w.Undeliverable job t r :=
  fun hundeliverable => hundeliverable.verdict_ne.1 h.verdict

theorem Failed.not_undeliverable {r : Verdict × FileTree} (h : w.Failed job t r) :
    ¬w.Undeliverable job t r :=
  fun hundeliverable => hundeliverable.verdict_ne.2 h.verdict

/-! ## Delivering -/

/-- **What delivering can do**: it makes folders that the file lies in, and then it writes the file,
or has given up before. -/
theorem deliver_cases (t : FileTree) (path : String) (pdf : ByteArray) :
    ∃ furnished, FileTree.Furnished t furnished (foldersOf t path) ∧
      (deliver t path pdf = writeExam furnished path pdf ∨
        ∃ parent fault, Path.parent? path = some parent ∧
          (t.makeFolders parent).1 = .error fault ∧
          deliver t path pdf = (.error (.refused .makeOutputFolder parent fault), furnished)) := by
  cases hparent : (Path.parent? path).filter (· ≠ "") with
  | none =>
    refine ⟨t, .refl t _, .inl ?_⟩
    rw [deliver, hparent]
  | some parent =>
    have hsome : Path.parent? path = some parent := (Option.filter_eq_some_iff.mp hparent).1
    have hfurnished : FileTree.Furnished t (t.makeFolders parent).2 (foldersOf t path) := by
      rw [foldersOf, hsome]
      exact t.furnished_makeFolders parent
    rw [deliver, hparent]
    rcases hmade : t.makeFolders parent with ⟨fault | _, furnished⟩ <;> rw [hmade] at hfurnished
    · exact ⟨furnished, hfurnished, .inr ⟨parent, fault, hsome, by rw [hmade], by simp [hmade]⟩⟩
    · exact ⟨furnished, hfurnished, .inl (by simp [hmade])⟩

/-- The verdict on an exam that was made, by how its delivery went. -/
def verdictOf : Except Failure Unit × FileTree → Verdict × FileTree
  | (.ok (), t) => (.delivered, t)
  | (.error failure, t) => (.undeliverable failure, t)

/-- An exam whose file is written after its folders were made is delivered. -/
theorem delivered_of_write (hplaces : w.examPlace job t ≠ w.logPlace t)
    {exam : Press.CompiledExam} (hexam : (w.course job t).result = .ok exam)
    {furnished written : FileTree}
    (hfurnished : FileTree.Furnished t furnished (foldersOf t (w.outputPath job)))
    (hwrite : furnished.write (w.outputPath job) exam.pdf = .ok written) :
    w.Delivered job t (.delivered, written) := by
  obtain ⟨source, s, made, before, -, -, -, -, hleft, -, hdeeds⟩ := w.assembler.course_eq_ok hexam
  have hothers : ∀ place ≠ w.examPlace job t, written.at? place = furnished.at? place := by
    intro place hne
    refine FileTree.at?_write_of_ne hwrite ?_
    rwa [hfurnished.destination_eq]
  refine ⟨rfl, ⟨_, exam.pdf, ?_, hleft, FileTree.read_write hwrite⟩, ?_, ?_⟩
  · rw [course, hdeeds]
    simp
  · exact (FileTree.fileAt?_congr (hothers _ hplaces.symm)).trans (hfurnished.fileAt?_eq _)
  · intro place hne
    rw [hothers place hne]
    exact hfurnished.kept place

/-- **An exam that was made is delivered, or it is undeliverable.** -/
theorem delivered_or_undeliverable (hplaces : w.examPlace job t ≠ w.logPlace t)
    {exam : Press.CompiledExam} (hexam : (w.course job t).result = .ok exam) :
    let r := verdictOf (deliver t (w.outputPath job) exam.pdf)
    w.Delivered job t r ∨ w.Undeliverable job t r := by
  obtain ⟨furnished, hfurnished, hdeliver | ⟨parent, fault, hparent, hfault, hdeliver⟩⟩ :=
    deliver_cases t (w.outputPath job) exam.pdf <;> rw [hdeliver]
  · rw [writeExam]
    cases hwrite : furnished.write (w.outputPath job) exam.pdf with
    | ok written => exact .inl (delivered_of_write hplaces hexam hfurnished hwrite)
    | error fault =>
      exact .inr ⟨⟨exam, fault, hexam, .inr ⟨hwrite, rfl⟩⟩, hfurnished.fileAt?_eq,
        hfurnished.kept⟩
  · exact .inr ⟨⟨exam, fault, hexam, .inl ⟨parent, hparent, hfault, rfl⟩⟩, hfurnished.fileAt?_eq,
      hfurnished.kept⟩

/-! ## Failing -/

/-- **What noting a failure can do**: the log has one more entry, or nothing has changed. -/
theorem noteFailure_cases (w : Workshop) (job : Job) (t : FileTree) (reason : String)
    (diagnostics : Option String) :
    t.append w.failureLog (FailureLog.entry job.title reason diagnostics).toUTF8 =
        .ok (w.noteFailure t job reason diagnostics) ∨
      (∃ failure, FailureLog.note t w.failureLog job.title reason diagnostics = .error failure) ∧
        w.noteFailure t job reason diagnostics = t := by
  rw [noteFailure, FailureLog.note]
  cases t.append w.failureLog (FailureLog.entry job.title reason diagnostics).toUTF8 with
  | ok t' => exact .inl rfl
  | error fault => exact .inr ⟨⟨_, rfl⟩, rfl⟩

/-- **A job that had a setback fails.** -/
theorem failed_noteFailure (hplaces : w.examPlace job t ≠ w.logPlace t) {reason : String}
    {diagnostics : Option String} (h : w.Setback job t reason diagnostics) :
    w.Failed job t (.failed, w.noteFailure t job reason diagnostics) := by
  rcases noteFailure_cases w job t reason diagnostics with happend | ⟨hfailure, hsame⟩
  · have hothers : ∀ place ≠ w.logPlace t,
        (w.noteFailure t job reason diagnostics).at? place = t.at? place :=
      fun place hne => FileTree.at?_append_of_ne happend hne
    have hfolders := FileTree.folder_append_iff happend
    refine ⟨rfl, ⟨reason, diagnostics, h, .inl (FileTree.read_append happend)⟩, ?_, hfolders,
      hothers⟩
    intro pdf hpdf
    exact FileTree.read_of_folders hpdf (FileTree.workingFolder_append happend)
      (fun place => (hfolders place).mpr) (hothers _ hplaces)
  · rw [hsame]
    exact ⟨rfl, ⟨reason, diagnostics, h, .inr ⟨hfailure, rfl⟩⟩, fun _ => id, fun _ => Iff.rfl,
      fun _ _ => rfl⟩

/-! ## The end of a job -/

/-- A job has no questions when none of its ids is in the bank. -/
theorem questions_eq_nil_iff :
    w.questions job = [] ↔ ∀ id ∈ job.questions, w.bank.find? id = none := by
  rw [questions, Bank.select_eq_filterMap, List.filterMap_eq_nil_iff]
  exact forall_congr' fun id => imp_congr_left mem_firstOccurrences

/-- Making an exam leaves the files as they were. -/
theorem assemble_eq_course :
    w.assembler.assemble t job.title (w.questions job) = ((w.course job t).result, t) :=
  Prod.ext rfl (w.assembler.tree_course t job.title (w.questions job))

/-- **What a job does**: it fails with a setback, or an exam is made and delivered. -/
theorem perform_cases (w : Workshop) (job : Job) (t : FileTree) :
    (∃ reason diagnostics, w.Setback job t reason diagnostics ∧
        w.perform job t = (.failed, w.noteFailure t job reason diagnostics)) ∨
      (∃ id ∈ job.questions, w.bank.find? id ≠ none) ∧
        ∃ exam, (w.course job t).result = .ok exam ∧
          w.perform job t = verdictOf (deliver t (w.outputPath job) exam.pdf) := by
  by_cases hnone : w.questions job = []
  · refine .inl ⟨_, _, .nothingSelected (questions_eq_nil_iff.mp hnone), ?_⟩
    rw [perform, if_pos hnone]
  · have hsome : ∃ id ∈ job.questions, w.bank.find? id ≠ none := by
      simpa using mt questions_eq_nil_iff.mpr hnone
    rw [perform, if_neg hnone, assemble_eq_course]
    cases hresult : (w.course job t).result with
    | error fault =>
      refine .inl ⟨fault.message, fault.diagnostics?, .notMade hsome ?_, rfl⟩
      rw [assemble_eq_course, hresult]
    | ok exam =>
      refine .inr ⟨hsome, exam, rfl, ?_⟩
      dsimp only
      rcases deliver t (w.outputPath job) exam.pdf with ⟨_ | _, t'⟩ <;> rfl

/-- **A job ends in one way.**  Where the exam and the failure log are not to be one file, exactly
one of the three holds: the exam was delivered, or it could not be made, or it was made and could
not be written.  And it could not be made when none of the questions is in the bank, or else when
assembling gave a fault. -/
theorem perform_endsInOneWay (w : Workshop) (job : Job) (t : FileTree)
    (hplaces : w.examPlace job t ≠ w.logPlace t) :
    let r := w.perform job t
    (w.Delivered job t r ∧ ¬w.Failed job t r ∧ ¬w.Undeliverable job t r ∨
      ¬w.Delivered job t r ∧ w.Failed job t r ∧ ¬w.Undeliverable job t r ∨
      ¬w.Delivered job t r ∧ ¬w.Failed job t r ∧ w.Undeliverable job t r) ∧
    (w.Failed job t r ↔
      (∀ id ∈ job.questions, w.bank.find? id = none) ∨
        ∃ fault, (w.assembler.assemble t job.title (w.questions job)).1 = .error fault) := by
  intro r
  rcases perform_cases w job t with ⟨reason, diagnostics, hsetback, hperform⟩ |
    ⟨hsome, exam, hexam, hperform⟩
  · have h : w.Failed job t r := by
      rw [show r = _ from hperform]
      exact failed_noteFailure hplaces hsetback
    refine ⟨.inr (.inl ⟨fun hd => hd.not_failed h, h, h.not_undeliverable⟩), iff_of_true h ?_⟩
    cases hsetback with
    | nothingSelected hnone => exact .inl hnone
    | notMade _ hfault => exact .inr ⟨_, hfault⟩
  · have hmade : ¬((∀ id ∈ job.questions, w.bank.find? id = none) ∨
        ∃ fault, (w.assembler.assemble t job.title (w.questions job)).1 = .error fault) := by
      rintro (hnone | ⟨fault, hfault⟩)
      · obtain ⟨id, hid, hfound⟩ := hsome
        exact hfound (hnone id hid)
      · rw [assemble_eq_course, hexam] at hfault
        cases hfault
    have h : w.Delivered job t r ∨ w.Undeliverable job t r := by
      rw [show r = _ from hperform]
      exact delivered_or_undeliverable hplaces hexam
    rcases h with h | h
    · exact ⟨.inl ⟨h, h.not_failed, h.not_undeliverable⟩, iff_of_false h.not_failed hmade⟩
    · have hnot : ¬w.Failed job t r := fun hf => hf.not_undeliverable h
      exact ⟨.inr (.inr ⟨fun hd => hd.not_undeliverable h, hnot, h⟩), iff_of_false hnot hmade⟩

/-- A workshop with one question, whose program makes a PDF of one byte. -/
def small : Workshop where
  bank := Bank.empty.insert { id := 7, document := .document [], sourceLabel := .document [] }
  assembler := {
    template := ⟨[.text "\\question".toList]⟩
    program := fun r =>
      { ending := .exited 0, contents := (["exam.pdf"], .file ⟨#[1]⟩) :: r.contents } }
  outputFolder := "exams"
  failureLog := "failed_exams.txt"

/-- The files before: an older exam, and a log. -/
def smallTree : FileTree where
  entries :=
    [(["tmp"], .folder), (["exams"], .folder), (["exams", "Algebra.pdf"], .file ⟨#[0]⟩),
      (["failed_exams.txt"], .file ⟨#[2]⟩)]

/-- The exam takes the place of the older one. -/
theorem perform_endsInOneWay_small :
    let job : Job := { title := "Algebra", questions := [3, 7], output := "" }
    small.examPlace job smallTree ≠ small.logPlace smallTree ∧
      small.Delivered job smallTree (small.perform job smallTree) := by
  intro job
  have hplaces : small.examPlace job smallTree ≠ small.logPlace smallTree := by decide
  refine ⟨hplaces, ?_⟩
  have hverdict : (small.perform job smallTree).1 = .delivered := by decide +kernel
  rcases (perform_endsInOneWay small job smallTree hplaces).1 with h | h | h
  · exact h.1
  · exact absurd (hverdict.symm.trans h.2.1.verdict) (by decide)
  · exact absurd hverdict h.2.2.verdict_ne.1

end ExamPress.Workshop
