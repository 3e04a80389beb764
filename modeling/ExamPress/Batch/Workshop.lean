import ExamPress.Batch.FailureLog
import ExamPress.Exam.Job
import ExamPress.Press.Assembly
import ExamPress.Question.Bank

/-!
# Making one exam of a batch

The questions of the job are taken from the bank, the exam is made and written to its file.  An
exam that cannot be made is noted in the failure log; that the log cannot be written changes
nothing.

## What is here

* `Workshop` — what all jobs share;
* `Verdict` — what became of a job;
* `Workshop.deliver` — writing an exam to its file;
* `Workshop.perform` — one job from its order to its file.
-/

set_option autoImplicit false

namespace ExamPress

open ExamPress.Files

/-- **What all jobs of a batch share.** -/
structure Workshop where
  bank : Bank
  assembler : Press.Assembler
  /-- The folder that the exams are written to. -/
  outputFolder : String
  /-- The file that failures are noted in. -/
  failureLog : String

/-- **What became of a job.** -/
inductive Verdict
  /-- The exam is in its file. -/
  | delivered
  /-- The exam could not be made. -/
  | failed
  /-- The exam was made but could not be written. -/
  | undeliverable (failure : Failure)
  deriving DecidableEq

namespace Workshop

/-- The path of the file that an exam goes to. -/
def outputPath (w : Workshop) (job : Job) : String := Path.join w.outputFolder job.outputName

/-- Writing a file whose folder is there. -/
def writeExam (t : FileTree) (path : String) (pdf : ByteArray) :
    Except Failure Unit × FileTree :=
  match t.write path pdf with
  | .ok t => (.ok (), t)
  | .error fault => (.error (.refused .writeExam path fault), t)

/-- **Writing an exam to its file**, after making the folders on the way. -/
def deliver (t : FileTree) (path : String) (pdf : ByteArray) : Except Failure Unit × FileTree :=
  match (Path.parent? path).filter (· ≠ "") with
  | none => writeExam t path pdf
  | some parent =>
    match t.makeFolders parent with
    | (.error fault, t) => (.error (.refused .makeOutputFolder parent fault), t)
    | (.ok (), t) => writeExam t path pdf

/-- The tree with a failure noted, or as it was when the log cannot be written. -/
def noteFailure (w : Workshop) (t : FileTree) (job : Job) (reason : String)
    (diagnostics : Option String) : FileTree :=
  (FailureLog.note t w.failureLog job.title reason diagnostics).toOption.getD t

/-- The reason when none of the questions of a job is in the bank. -/
def nothingSelected : String := "没有可用的题目"

/-- The questions of a job. -/
def questions (w : Workshop) (job : Job) : List Question :=
  w.bank.select (.ofIds job.questions)

/-- **One job, from its order to its file.** -/
def perform (w : Workshop) (job : Job) (t : FileTree) : Verdict × FileTree :=
  if w.questions job = [] then (.failed, w.noteFailure t job nothingSelected none)
  else
    match w.assembler.assemble t job.title (w.questions job) with
    | (.error fault, t) => (.failed, w.noteFailure t job fault.message fault.diagnostics?)
    | (.ok exam, t) =>
      match deliver t (w.outputPath job) exam.pdf with
      | (.ok (), t) => (.delivered, t)
      | (.error failure, t) => (.undeliverable failure, t)

end Workshop

end ExamPress
