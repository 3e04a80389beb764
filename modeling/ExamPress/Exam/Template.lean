import ExamPress.Question.Record
import ExamPress.Template.Fill
import ExamPress.Template.Nesting

/-!
# Templates of exams

The source of an exam is its title and its questions, filled into a template.

## What is here

* `Template` — a template, and `Template.parse` its reader;
* `Template.fillExam` — the source of an exam;
* `Template.builtin` — the template that is used when no other is given.
-/

set_option autoImplicit false

namespace ExamPress

/-- **A template.** -/
structure Template where
  elements : List Template.Element
  deriving DecidableEq

namespace Template

/-- A template from its source. -/
def parse (source : List Char) : Except Refusal Template := (ofSource source).map Template.mk

/-- A question as the template sees it. -/
def questionData (f : Markup.Fragment) : Json.Value :=
  .object
    [("id", .number (.integer f.id.toInt)), ("latex", .string f.latex), ("source", .string f.source)]

/-- An exam as the template sees it. -/
def examData (title : String) (questions : List Markup.Fragment) : Json.Value :=
  .object [("questions", .array (questions.map questionData)), ("title", .string title)]

/-- **The source of an exam.** -/
def fillExam (t : Template) (title : String) (questions : List Markup.Fragment) :
    Except Fault String :=
  (fill t.elements (examData title questions)).map String.ofList

/-- The lines of the template that is used when no other is given. -/
def builtinLines : List String :=
  [
    "\\documentclass[11pt,a4paper]\x7bexam\x7d",
    "\\usepackage\x7bamsmath\x7d",
    "\\usepackage\x7bamssymb\x7d",
    "\\usepackage\x7bmulticol\x7d",
    "",
    "\\pagestyle\x7bheadandfoot\x7d",
    "\\firstpageheader\x7b\x7d\x7b\x7d\x7b\x7d",
    "\\runningheader\x7b\x7d\x7b \x7b\x7b~title~\x7d\x7d \x7d\x7b\x7d",
    "\\footer\x7b\x7d\x7b\\thepage\\ / \\numpages\x7d\x7b\x7d",
    "",
    "\\begin\x7bdocument\x7d",
    "",
    "\\begin\x7bcenter\x7d",
    "  \\Large\\textbf\x7b \x7b\x7b~title~\x7d\x7d \x7d",
    "\\end\x7bcenter\x7d",
    "",
    "\\begin\x7bquestions\x7d",
    "\x7b\x7b#each questions\x7d\x7d",
    "% question \x7b\x7bid\x7d\x7d\x7b\x7b#if source\x7d\x7d: \x7b\x7bsource\x7d\x7d\x7b\x7b/if\x7d\x7d",
    "\x7b\x7blatex\x7d\x7d",
    "",
    "\x7b\x7b/each\x7d\x7d",
    "\\end\x7bquestions\x7d",
    "",
    "\\end\x7bdocument\x7d"]

/-- The source of the template that is used when no other is given. -/
def builtinSource : List Char := builtinLines.flatMap fun line => line.toList ++ ['\n']

/-- **The template that is used when no other is given.** -/
def builtin : Except Refusal Template := parse builtinSource

end Template

end ExamPress
