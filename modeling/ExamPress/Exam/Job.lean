import ExamPress.Exam.Heading
import ExamPress.Question.Lesson
import ExamPress.Settings
import ExamPress.Toml.Folder

/-!
# Jobs

An exam to be made: its title, its questions, and the name of the file that it goes to.  A folder
has one job in each file, and there is one more when the settings select questions.

## What is here

* `Job` — the order for one exam, `Job.ofToml?` its reader and `Job.toJson` its text as JSON;
* `Job.outputName` — the name of the file, made from the title when none is given;
* `Job.loadAll` — the jobs of a folder, each with the path of its file;
* `Settings.ownJob?` — the job that the settings give;
* `Settings.jobs` — all jobs, the one of the settings last.
-/

set_option autoImplicit false

namespace ExamPress

/-- **An exam to be made.** -/
structure Job where
  title : String
  questions : List QuestionId
  /-- The name of the file, blank to have one made. -/
  output : String
  deriving DecidableEq

namespace Job

/-- A job from its table. -/
def ofEntries? (entries : Toml.Entries) : Option Job := do
  let title ← (← entries.lookup "title").string?
  let questions ← (← (← entries.lookup "questions").items?).mapM Toml.Value.int64?
  let output ← (← entries.lookup "output").string?
  if entries.othersPlain ["title", "questions", "output"] then some { title, questions, output }
  else none

/-- **A job from its text.** -/
def ofToml? (text : String) : Option Job := do ofEntries? (← Toml.parse? text)

/-- A job as JSON. -/
def toJson (j : Job) : String := String.ofList <| Json.Value.compact <| .object
  [("title", .string j.title),
    ("questions", .array (j.questions.map fun id => .number (.integer id.toInt))),
    ("output", .string j.output)]

/-- **The name of the file that an exam goes to.** -/
def outputName (j : Job) : String :=
  let name := Text.trim j.output.toList
  String.ofList (if name = [] then stem j.title ++ ".pdf".toList else name)

end Job

/-! ## Which exams are to be made -/

open ExamPress.Files

/-- The job in a file, with the path of the file, if the file is good. -/
def Job.fileIn? (t : FileTree) (path : String) : Option (String × Job) :=
  match Toml.load Job.ofToml? t path with
  | .error _ => none
  | .ok job => some (path, job)

/-- **The jobs of a folder**, in the order of the names of their files.  Files that are not good are
passed over. -/
def Job.loadAll (t : FileTree) (folder : String) : Except Failure (List (String × Job)) := do
  let paths ← Toml.paths t folder
  .ok (paths.filterMap (Job.fileIn? t))

namespace Settings

/-- The job that the settings give by selecting questions. -/
def ownJob? (s : Settings) : Option Job :=
  s.examSelection.map fun selection =>
    { title := s.examTitle, questions := selection.ids, output := "" }

/-- **All jobs.**  The folder of jobs need not be there. -/
def jobs (s : Settings) (t : FileTree) : Except Failure (List Job) := do
  let filed ← if t.pathExists s.examFolder then Job.loadAll t s.examFolder else .ok []
  .ok (filed.map Prod.snd ++ s.ownJob?.toList)

end Settings

end ExamPress
