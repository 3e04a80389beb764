import ExamPress.Batch.Workshop
import ExamPress.Exam.Job
import ExamPress.Exam.TemplateFile
import ExamPress.Question.Lesson

/-!
# A batch

All exams that the settings ask for, one after the other.

## What is here

* `Batch.begin` — the workshop that the settings describe, with a fresh log file;
* `Batch.performAll` — a list of jobs;
* `Batch.Tally` — how many exams were made;
* `Batch.run` — the whole batch, and `Batch.Failure` why there is none.
-/

set_option autoImplicit false

namespace ExamPress.Batch

open ExamPress.Files

/-- **Why a batch does not come about.** -/
inductive Failure
  | files (failure : Files.Failure)
  | template (cause : Template.Unusable)
  deriving DecidableEq

namespace Failure

/-- What did not work. -/
def headline : Failure → String
  | files failure => failure.headline
  | template _ => "无法加载试卷模板"

/-- Why it did not work, the immediate cause first. -/
def causes : Failure → List String
  | files failure => failure.causes
  | template cause => cause.message :: cause.causes

end Failure

/-- The text that a log file begins with. -/
def logHeader (time : String) : String :=
  let rule := String.ofList (List.replicate 60 '=')
  rule ++ "\n组卷日志 - " ++ time ++ "\n" ++ rule ++ "\n\n"

/-- The workshop that the settings describe. -/
def equip (s : Settings) (program : Press.Program) (t : FileTree) : Except Failure Workshop := do
  let bank ← (Bank.load t s.questionBankFolder).mapError .files
  let template ← (Template.obtain t s).mapError .template
  .ok
    { bank
      assembler :=
        { template, program
          compiler := { program := s.compilerProgram, timeout := s.compileTimeout }
          scratchRoot := s.scratchRoot.getD (s.temporaryFolder.getD Press.Scratch.commonRoot) }
      outputFolder := s.outputFolder
      failureLog := s.failureLogFile }

/-- **Opening the workshop.**  The log file is begun first. -/
def begin (s : Settings) (program : Press.Program) (time : String) (t : FileTree) :
    Except Failure Workshop × FileTree :=
  match t.write s.outputLogFile (logHeader time).toUTF8 with
  | .error fault => (.error (.files (.refused .startLog s.outputLogFile fault)), t)
  | .ok t => (equip s program t, t)

/-- **Jobs one after the other.** -/
def performAll (w : Workshop) : List Job → FileTree → List Verdict × FileTree
  | [], t => ([], t)
  | job :: jobs, t =>
    let (verdict, t) := w.perform job t
    let (verdicts, t) := performAll w jobs t
    (verdict :: verdicts, t)

/-- How many exams there are, and how many of them are in their files. -/
structure Tally where
  success : Nat
  failed : Nat
  total : Nat
  deriving DecidableEq

/-- Counting what became of jobs.  All that was not delivered has failed. -/
def Tally.ofVerdicts (verdicts : List Verdict) : Tally :=
  { success := verdicts.countP (· = .delivered)
    failed := verdicts.countP (· ≠ .delivered)
    total := verdicts.length }

/-- The jobs of the settings in an open workshop. -/
def work (s : Settings) (w : Workshop) (t : FileTree) : Except Failure Tally × FileTree :=
  match s.jobs t with
  | .error failure => (.error (.files failure), t)
  | .ok jobs =>
    let (verdicts, t) := performAll w jobs t
    (.ok (.ofVerdicts verdicts), t)

/-- **The whole batch.** -/
def run (s : Settings) (program : Press.Program) (time : String) (t : FileTree) :
    Except Failure Tally × FileTree :=
  match begin s program time t with
  | (.error failure, t) => (.error failure, t)
  | (.ok w, t) => work s w t

end ExamPress.Batch
