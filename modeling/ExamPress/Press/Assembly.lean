import ExamPress.Exam.Template
import ExamPress.Press.Program
import ExamPress.Press.Stage

/-!
# Assembling an exam

The questions are typeset, filled into the template, written into a scratch folder and given to the
typesetting program; the file that it makes is read, and the folder is removed whatever happened.

## What is here

* `Press.Assembler` — what is needed, and `Press.CompiledExam` what comes out;
* `Press.Deed` — what is done on the way, and `Press.Course` how a piece of work went;
* `Assembler.source` — the source of an exam;
* `Assembler.course` — how the making of an exam goes, and `Assembler.assemble` what comes of it.
-/

set_option autoImplicit false

namespace ExamPress.Press

open ExamPress.Files

/-- **An exam that was made.** -/
structure CompiledExam where
  pdf : ByteArray
  questionCount : Nat

/-- What is done to the files, or with the program, while an exam is made. -/
inductive Deed
  /-- A scratch folder is made. -/
  | makeFolder (s : Scratch)
  /-- The source is written into the folder. -/
  | writeSource (s : Scratch) (source : String)
  /-- The program is asked to start. -/
  | start (request : Request)
  /-- The folder is removed, with all that is in it. -/
  | removeFolder (s : Scratch)

/-- **How a piece of work went**: what came of it, the files afterwards, and what was done, in
order. -/
structure Course (α : Type) where
  result : Except AssemblyFault α
  tree : FileTree
  deeds : List Deed

/-- **What is needed to make exams.** -/
structure Assembler where
  template : Template
  compiler : Compiler := {}
  /-- What the typesetting program does. -/
  program : Program
  /-- The folder that scratch folders are made in. -/
  scratchRoot : String := Scratch.commonRoot

namespace Assembler

/-- **The source of an exam.** -/
def source (a : Assembler) (title : String) (questions : List Question) :
    Except Template.Fault String :=
  a.template.fillExam title (questions.map .ofQuestion)

/-- What comes of a run that ended: the file that the program made, if it says that all went
well. -/
def collect (a : Assembler) (s : Scratch) (t : FileTree) (o : Outcome) :
    Except AssemblyFault ByteArray :=
  match o.exitCode with
  | none => .error (.disconnected o.stderr)
  | some 0 =>
    (t.contentAt (s.place ++ [a.compiler.artifactName])).mapError
      (.artifact (s.pathOf a.compiler.artifactName))
  | some code => .error (.compilation code o.stderr)

/-- Typesetting a source in a scratch folder. -/
def typeset (a : Assembler) (s : Scratch) (t : FileTree) (source : String) : Course ByteArray :=
  match s.writeSource t source with
  | .error cause => { result := .error (.source cause), tree := t, deeds := [] }
  | .ok t =>
    let deeds := [.writeSource s source, .start (a.compiler.request s t)]
    match a.compiler.run a.program s t with
    | (.error .unavailable, t) => { result := .error .unavailable, tree := t, deeds }
    | (.error (.overdue limit), t) => { result := .error (.overdue limit), tree := t, deeds }
    | (.ok outcome, t) => { result := a.collect s t outcome, tree := t, deeds }

/-- **How the making of an exam goes.**  The scratch folder is there only in between. -/
def course (a : Assembler) (t : FileTree) (title : String) (questions : List Question) :
    Course CompiledExam :=
  match a.source title questions with
  | .error fault => { result := .error (.template fault), tree := t, deeds := [] }
  | .ok source =>
    match Scratch.create t a.scratchRoot with
    | .error cause => { result := .error (.scratch cause), tree := t, deeds := [] }
    | .ok (s, t) =>
      let inside := a.typeset s t source
      { result := inside.result.map fun pdf => { pdf, questionCount := questions.length }
        tree := s.remove inside.tree
        deeds := .makeFolder s :: inside.deeds ++ [.removeFolder s] }

/-- **Making an exam.** -/
def assemble (a : Assembler) (t : FileTree) (title : String) (questions : List Question) :
    Except AssemblyFault CompiledExam × FileTree :=
  let c := a.course t title questions
  (c.result, c.tree)

end Assembler

end ExamPress.Press
