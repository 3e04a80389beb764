import ExamPress.Files.Tree

/-!
# The failure log

A file that grows by one entry for each exam that could not be made: a line with its title and the
reason, and what the typesetting program said, each line of it behind four blanks.

## What is here

* `FailureLog.reasonLine` — a reason on one line;
* `FailureLog.entry` — the text of an entry;
* `FailureLog.note` — the tree with one more entry.
-/

set_option autoImplicit false

namespace ExamPress.FailureLog

open ExamPress.Files

/-- The file of the log when no other is given. -/
def defaultPath : String := "failed_exams.txt"

/-- What stands for a reason that says nothing. -/
def noReason : List Char := "未知原因".toList

/-- **A reason on one line**: its first line that is not blank, without the blanks at its ends. -/
def reasonLine (reason : String) : List Char :=
  (((Text.lines reason.toList).map Text.trim).find? (· ≠ [])).getD noReason

/-- The line with the title and the reason. -/
def headLine (title reason : String) : List Char :=
  title.toList ++ " | ".toList ++ reasonLine reason

/-- The lines that tell what the program said, unless that is blank. -/
def detailLines (diagnostics : Option String) : List (List Char) :=
  match diagnostics with
  | none => []
  | some text =>
    if Text.trim text.toList = [] then []
    else (Text.lines text.toList).map fun line => "    ".toList ++ line

/-- **The text of an entry**, each line with its ending. -/
def entry (title reason : String) (diagnostics : Option String) : String :=
  String.ofList <|
    (headLine title reason :: detailLines diagnostics).flatMap fun line => line ++ ['\n']

/-- **The tree with one more entry in the log.** -/
def note (t : FileTree) (path title reason : String) (diagnostics : Option String) :
    Except Failure FileTree :=
  (t.append path (entry title reason diagnostics).toUTF8).mapError
    (.refused .openFailureLog path)

end ExamPress.FailureLog
