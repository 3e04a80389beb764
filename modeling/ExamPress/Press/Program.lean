import ExamPress.Press.Compiler
import ExamPress.Press.Scratch
import ExamPress.Text.Utf8

/-!
# Running the typesetting program

The program is known by what it does in the folder that it is started in, and it does nothing
elsewhere.

## What is here

* `Press.Request` — what the program is started with; `Press.Run` how it ends;
* `Press.Program` — a program, as the run that it makes of a request;
* `Compiler.run` — starting it in a scratch folder.
-/

set_option autoImplicit false

namespace ExamPress.Press

open ExamPress.Files

/-- What the program is started with. -/
structure Request where
  arguments : List String
  /-- The path of the folder that it is started in. -/
  folder : String
  /-- What is in that folder. -/
  contents : List (Place × Entry)

/-- How a run ends. -/
inductive Ending
  /-- The program cannot be started. -/
  | notStarted
  | exited (code : Int)
  /-- The program was killed from outside. -/
  | killed
  /-- The program is still at work when it has to be done. -/
  | overdue
  deriving DecidableEq

/-- A run of the program. -/
structure Run where
  ending : Ending
  /-- What is in the folder afterwards. -/
  contents : List (Place × Entry)
  /-- What the program said. -/
  stderr : ByteArray := ByteArray.empty

/-- **A program**, by what it does. -/
abbrev Program := Request → Run

/-- Why there is no outcome. -/
inductive RunFault
  | unavailable
  | overdue (limit : Duration)
  deriving DecidableEq

namespace Compiler

/-- What the program is started with for the source in a scratch folder. -/
def request (c : Compiler) (s : Scratch) (t : FileTree) : Request :=
  { arguments := c.args s.path Scratch.sourceName, folder := s.path, contents := t.below s.place }

/-- The outcome of a run.  Where there is no limit, what does not end by itself is ended from
outside. -/
def outcome (c : Compiler) (r : Run) : Except RunFault Outcome :=
  let ended (exitCode : Option Int) : Outcome :=
    { exitCode, stderr := Text.decodeLossy r.stderr }
  match r.ending, c.timeout with
  | .notStarted, _ => .error .unavailable
  | .exited code, _ => .ok (ended (some code))
  | .killed, _ | .overdue, none => .ok (ended none)
  | .overdue, some limit => .error (.overdue limit)

/-- **Running the program in a scratch folder.** -/
def run (c : Compiler) (p : Program) (s : Scratch) (t : FileTree) :
    Except RunFault Outcome × FileTree :=
  let r := p (c.request s t)
  (c.outcome r, t.graft s.place r.contents)

end Compiler

end ExamPress.Press
