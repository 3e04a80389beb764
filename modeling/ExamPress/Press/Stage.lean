import ExamPress.Files.Fault
import ExamPress.Template.Fault
import ExamPress.Text.Duration

/-!
# Stages

What is being done for an exam, as it is told to the people who wait for it, and what is told when
it cannot be done.

## What is here

* `Press.Stage` — the stages, with their names;
* `Press.AssemblyFault` — what can fail, with `AssemblyFault.message` and
  `AssemblyFault.diagnostics?`.
-/

set_option autoImplicit false

namespace ExamPress.Press

open ExamPress.Files

/-- The stages of making an exam. -/
inductive Stage
  | fetching
  | rendering
  | templateFilling
  | compiling
  | succeeded
  | failed
  deriving DecidableEq

namespace Stage

/-- The stages in order. -/
def all : List Stage := [fetching, rendering, templateFilling, compiling, succeeded, failed]

/-- The name of a stage. -/
def text : Stage → String
  | fetching => "选题"
  | rendering => "渲染题目"
  | templateFilling => "填充模板"
  | compiling => "编译"
  | succeeded => "完成"
  | failed => "失败"

end Stage

/-- **Why there is no exam**: the first stage that failed. -/
inductive AssemblyFault
  | template (fault : Template.Fault)
  | scratch (cause : Fault)
  | source (cause : Fault)
  /-- The program cannot be started. -/
  | unavailable
  | overdue (limit : Duration)
  /-- The program refused the source. -/
  | compilation (exitCode : Int) (stderr : String)
  /-- The program ended without an exit code. -/
  | disconnected (stderr : String)
  | artifact (path : String) (cause : Fault)
  deriving DecidableEq

namespace AssemblyFault

/-- The wording of a fault.  What the program said of the source is told as it is. -/
def message : AssemblyFault → String
  | template fault => "模板填充失败: " ++ fault.message
  | scratch _ => "something went wrong: can't create temp dir"
  | source _ => "something went wrong: couldn't write to .tex file"
  | unavailable => "something went wrong: latex failed make sure it is installed and on path"
  | overdue limit => "something went wrong: latex did not finish within " ++ limit.text
  | compilation _ stderr => stderr
  | disconnected _ => "something went wrong: disconnected"
  | artifact path cause =>
    "something went wrong: couldn't read compiled pdf (" ++ path ++ "): " ++ cause.message

/-- What the program said, when it ended badly. -/
def diagnostics? : AssemblyFault → Option String
  | compilation _ stderr | disconnected stderr => some stderr
  | template _ | scratch _ | source _ | unavailable | overdue _ | artifact _ _ => none

end AssemblyFault

end ExamPress.Press
