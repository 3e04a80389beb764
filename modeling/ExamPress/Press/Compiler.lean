import ExamPress.Text.Duration

/-!
# The typesetting program

How the program that typesets an exam is called.

## What is here

* `Press.Compiler` — the program, the name of the job, and how long it may take;
* `Compiler.args` — its arguments, and `Compiler.artifactName` the file that it makes;
* `Press.Outcome` — its exit code, and what it said.
-/

set_option autoImplicit false

namespace ExamPress.Press

/-- **A typesetting program.** -/
structure Compiler where
  program : String := "latexmk"
  /-- The name of the job, from which the program makes the names of its files. -/
  jobName : String := "exam"
  /-- How long the program may take. -/
  timeout : Option Duration := none

namespace Compiler

/-- The file that the program makes. -/
def artifactName (c : Compiler) : String := c.jobName ++ ".pdf"

/-- The arguments of the program: make a PDF, stop at the first error, ask nothing, where to put
the files, the source, and the name of the job. -/
def args (c : Compiler) (folder source : String) : List String :=
  ["-pdf", "-halt-on-error", "-interaction=nonstopmode", "-output-directory=" ++ folder, source,
    "-jobname=" ++ c.jobName]

end Compiler

/-- How a run of the program ended.  A program that was killed has no exit code. -/
structure Outcome where
  exitCode : Option Int
  stderr : String
  deriving DecidableEq

/-- Did the program say that all went well? -/
def Outcome.success (o : Outcome) : Bool := o.exitCode = some 0

end ExamPress.Press
