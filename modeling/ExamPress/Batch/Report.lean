import ExamPress.Batch.Run

/-!
# What a batch tells

The exit code and the text that a batch ends with, when it is run as a command.

## What is here

* `Batch.failureText` — a failure with its causes, one on a line;
* `Batch.Report` — exit code and text, `Report.ofResult` for the result of a batch;
* `Batch.command` — a batch whose settings are looked up by name.
-/

set_option autoImplicit false

namespace ExamPress.Batch

open ExamPress.Files

/-- The lines of a cause, set in by four blanks, or behind its number when there are several. -/
def causeText (number : Option Nat) (cause : String) : String :=
  let first := match number with
    | none => "    "
    | some n => "    " ++ String.ofList (Number.natText n) ++ ": "
  let later := match number with
    | none => "    "
    | some _ => "       "
  match Text.pieces '\n' cause.toList with
  | [] => first
  | line :: lines =>
    first ++ String.ofList line ++
      String.join (lines.map fun l => "\n" ++ later ++ String.ofList l)

/-- The part of a text that tells the causes. -/
def causesText : List String → String
  | [] => ""
  | [cause] => "\n\nCaused by:\n" ++ causeText none cause
  | causes =>
    "\n\nCaused by:\n" ++
      "\n".intercalate (causes.zipIdx.map fun (cause, n) => causeText (some n) cause)

/-- **The text of a failure**: what did not work, and why. -/
def failureText (f : Failure) : String :=
  "Error: " ++ f.headline ++ causesText f.causes ++ "\n"

/-- A failure on one line. -/
def Failure.line (f : Failure) : String := ": ".intercalate (f.headline :: f.causes)

/-- What a command ends with. -/
structure Report where
  exitCode : Nat
  stderr : String
  deriving DecidableEq

/-- **The end of a command**: it ends well when every exam is in its file. -/
def Report.ofResult : Except Failure Tally → Report
  | .error failure => { exitCode := 1, stderr := failureText failure }
  | .ok tally => { exitCode := if 0 < tally.failed then 1 else 0, stderr := "" }

/-- **The whole command.** -/
def command (lookup : String → Option String) (program : Press.Program) (time : String)
    (t : FileTree) : Report × FileTree :=
  let (result, t) := run (Settings.ofEnvironment lookup) program time t
  (.ofResult result, t)

end ExamPress.Batch
