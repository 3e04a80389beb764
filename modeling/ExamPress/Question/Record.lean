import ExamPress.Document.Reader
import ExamPress.Markup.Render
import ExamPress.Selection

/-!
# Questions

A question is its text and the name of where it comes from, both documents, under an id.

## What is here

* `Question` — the record, and `Question.ofStored` which reads its text;
* `Question.Unreadable` — a document of a question that cannot be read;
* `Markup.Fragment` — a question as it is typeset.
-/

set_option autoImplicit false

namespace ExamPress

open ExamPress.Document (Node ReadError)

/-- **A question.** -/
structure Question where
  id : QuestionId
  document : Node
  /-- The name of the lesson or the unit that the question belongs to. -/
  sourceLabel : Node
  deriving DecidableEq

namespace Question

/-- The two names that a file of questions gives. -/
inductive LabelName
  | unit
  | lesson
  deriving DecidableEq

/-- How a name is called in messages. -/
def LabelName.text : LabelName → String
  | unit => "unit"
  | lesson => "lesson"

/-- A document that cannot be read: the text of a question, or a name. -/
inductive Unreadable
  | document (id : QuestionId) (cause : ReadError)
  | label (name : LabelName) (cause : ReadError)
  deriving DecidableEq

/-- The wording of what is wrong. -/
def Unreadable.message : Unreadable → String
  | document id cause =>
    "题目 " ++ Selection.idString id ++ " 的文档 JSON 解析失败: " ++ cause.message
  | label name cause => name.text ++ " 名称的文档 JSON 解析失败: " ++ cause.message

/-- A question from its stored text. -/
def ofStored (id : QuestionId) (text : String) (sourceLabel : Node) :
    Except Unreadable Question := do
  let document ← (Node.ofJson text).mapError (.document id)
  .ok { id, document, sourceLabel }

end Question

/-- **A question as it is typeset**: its markup, and the name of its source on one line. -/
structure Markup.Fragment where
  id : QuestionId
  latex : String
  source : String
  deriving DecidableEq

/-- A question, typeset. -/
def Markup.Fragment.ofQuestion (q : Question) : Markup.Fragment :=
  { id := q.id, latex := Markup.render q.document, source := Markup.label q.sourceLabel }

end ExamPress
