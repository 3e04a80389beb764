import ExamPress.Document.PlainText
import ExamPress.Json.Writer
import ExamPress.Question.Bank
import ExamPress.Toml.Folder
import ExamPress.Toml.Reader

/-!
# Lessons

The questions of one lesson are kept in one file, together with the names of the unit and the
lesson.  A folder of lessons makes a question bank, in which a file with anything wrong in it gives
nothing, not even the questions before the fault.

## What is here

* `Lesson` — the file, `Lesson.ofToml?` its reader and `Lesson.toJson` its text as JSON;
* `Lesson.questions?` — the questions, each under the name of the lesson, or of the unit when the
  lesson's name says nothing;
* `Lesson.questionsIn` — the questions of a file, none when the file is not good;
* `Bank.load` — the bank of a folder.
-/

set_option autoImplicit false

namespace ExamPress

open ExamPress.Document (Node)

/-- A question as it is kept in a file. -/
structure StoredQuestion where
  id : QuestionId
  /-- The document as JSON. -/
  text : String
  deriving DecidableEq

/-- **A file of questions.** -/
structure Lesson where
  course : String
  /-- The name of the unit, a document as JSON. -/
  unit : String
  /-- The name of the lesson, a document as JSON. -/
  lesson : String
  questions : List StoredQuestion
  deriving DecidableEq

namespace Toml.Value

/-- A string. -/
def string? : Value → Option String
  | .string s => some s
  | _ => none

/-- An integer of 64 bits. -/
def int64? : Value → Option Int64
  | .integer n =>
    if Int64.minValue.toInt ≤ n ∧ n ≤ Int64.maxValue.toInt then some (Int64.ofInt n) else none
  | _ => none

/-- The items of an array, however it is written. -/
def items? : Value → Option (List Value)
  | .array items | .tables items => some items
  | _ => none

end Toml.Value

/-- No entry but those with the given keys has a number that is too large to be passed over. -/
def Toml.Entries.othersPlain (entries : Toml.Entries) (keys : List String) : Bool :=
  entries.all fun e => keys.contains e.1 || e.2.isPlain

namespace StoredQuestion

/-- A question from a table, or from an array that begins with its id and its text. -/
def ofToml? : Toml.Value → Option StoredQuestion
  | .table _ entries => do
    let id ← (← entries.lookup "id").int64?
    let text ← (← entries.lookup "text").string?
    if Toml.Entries.othersPlain entries ["id", "text"] then some { id, text } else none
  | .array (id :: text :: _) | .tables (id :: text :: _) => do
    some { id := ← id.int64?, text := ← text.string? }
  | _ => none

/-- A question as a JSON value. -/
def toValue (q : StoredQuestion) : Json.Value :=
  .object [("id", .number (.integer q.id.toInt)), ("text", .string q.text)]

end StoredQuestion

namespace Lesson

/-- The file from its table.  The course may be left out, and so may the questions. -/
def ofEntries? (entries : Toml.Entries) : Option Lesson := do
  let course ← match entries.lookup "course" with
    | none => some ""
    | some v => v.string?
  let unit ← (← entries.lookup "unit").string?
  let lesson ← (← entries.lookup "lesson").string?
  let questions ← match entries.lookup "questions" with
    | none => some []
    | some v => (← v.items?).mapM StoredQuestion.ofToml?
  if entries.othersPlain ["course", "unit", "lesson", "questions"] then
    some { course, unit, lesson, questions }
  else none

/-- **The file from its text.** -/
def ofToml? (text : String) : Option Lesson := do ofEntries? (← Toml.parse? text)

/-- The file as JSON. -/
def toJson (l : Lesson) : String := String.ofList <| Json.Value.compact <| .object
  [("course", .string l.course), ("unit", .string l.unit), ("lesson", .string l.lesson),
    ("questions", .array (l.questions.map StoredQuestion.toValue))]

/-- The name that the questions go under: that of the lesson unless it has no words. -/
def sourceLabel (unit lesson : Node) : Node := if lesson.plainText = "" then unit else lesson

/-- **The questions of a file.**  The names are read first, then the questions in order; the first
that cannot be read is reported. -/
def questions? (l : Lesson) : Except Question.Unreadable (List Question) := do
  let unit ← (Node.ofJson l.unit).mapError (.label .unit)
  let lesson ← (Node.ofJson l.lesson).mapError (.label .lesson)
  l.questions.mapM fun q => Question.ofStored q.id q.text (sourceLabel unit lesson)

end Lesson

/-! ## The bank in a folder -/

open ExamPress.Files

/-- The questions of a file, if it can be read, is a lesson, and all its documents are readable. -/
def Lesson.questionsIn (t : FileTree) (path : String) : List Question :=
  match Toml.load Lesson.ofToml? t path with
  | .error _ => []
  | .ok lesson =>
    match lesson.questions? with
    | .error _ => []
    | .ok questions => questions

/-- **The bank of a folder.**  Of the questions with one id, the last one of the last file counts. -/
def Bank.load (t : FileTree) (folder : String) : Except Failure Bank := do
  let paths ← Toml.paths t folder
  .ok (Bank.empty.insertAll (paths.flatMap (Lesson.questionsIn t)))

end ExamPress
