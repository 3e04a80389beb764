import ExamPress.Press.Assembly
import ExamPress.Proofs.Press.Scratch

/-!
# Nothing is left behind

While an exam is made there is a scratch folder, with the source in it and whatever the typesetting
program leaves there: logs, folders, a PDF, or something else under the name of the source.
Afterwards the tree of files is the one that was there before, whichever way the work ended.

The argument does not go through these ways one by one.  The folder is made where nothing is, so
the tree before is the tree beside the folder; no step after that touches anything beside the
folder; and removing the folder leaves what is beside it.

## What is here

* `Compiler.cut_run`, `Assembler.cut_typeset` — what each step keeps;
* `Assembler.tree_course` — what the steps come to, and `Assembler.assemble_leavesNothing` — the
  theorem.
-/

set_option autoImplicit false

namespace ExamPress.Press

open ExamPress.Files

/-- The program changes nothing beside the folder that it is started in. -/
theorem Compiler.cut_run (c : Compiler) (p : Program) (s : Scratch) (t : FileTree) :
    (c.run p s t).2.cut s.place = t.cut s.place :=
  t.cut_graft s.place _

/-! ## Making an exam -/

namespace Assembler

variable (a : Assembler)

/-- **Typesetting changes nothing beside the scratch folder**, however it ends. -/
theorem cut_typeset (s : Scratch) (t : FileTree) (source : String) :
    (a.typeset s t source).tree.cut s.place = t.cut s.place := by
  rw [typeset]
  split
  · rfl
  · next written hwritten =>
    have hrun := a.compiler.cut_run a.program s written
    rw [Scratch.cut_writeSource hwritten] at hrun
    split <;> next heq => rwa [heq] at hrun

/-- However the making of an exam goes, the files are what they were afterwards. -/
theorem tree_course (t : FileTree) (title : String) (questions : List Question) :
    (a.course t title questions).tree = t := by
  rw [course]
  split
  · rfl
  · next source _ =>
    split
    · rfl
    · next s made hmade =>
      exact (a.cut_typeset s made source).trans (Scratch.cut_of_create hmade)

/-- **Nothing is left behind.**  However the making of an exam ends, the files are what they were;
and where the template cannot be filled, no folder was made and the program was not asked to start
in between. -/
theorem assemble_leavesNothing (t : FileTree) (title : String) (questions : List Question) :
    (a.assemble t title questions).2 = t ∧
      ∀ fault, a.source title questions = .error fault →
        (a.assemble t title questions).1 = .error (.template fault) ∧
          (a.course t title questions).deeds = [] := by
  refine ⟨a.tree_course t title questions, fun fault hfault => ?_⟩
  rw [assemble, course, hfault]
  exact ⟨rfl, rfl⟩

/-- An assembler whose template shows a value that exams do not have. -/
def subtitled : Assembler where
  template := ⟨[.text "\\title".toList, .print (.reference ⟨"subtitle", .relative 0 ["subtitle"]⟩)]⟩
  program r :=
    { ending := .exited 0, contents := (["exam.pdf"], .file ByteArray.empty) :: r.contents }

/-- Where a folder for scratch folders is there, but the template shows a value that exams do not
have, no use is made of it. -/
theorem assemble_leavesNothing_subtitled :
    subtitled.source "Algebra" [] = .error { reason := .missingValue (some "subtitle") } ∧
      (subtitled.assemble { entries := [(["tmp"], .folder)] } "Algebra" []).1 =
        .error (.template { reason := .missingValue (some "subtitle") }) ∧
      (subtitled.course { entries := [(["tmp"], .folder)] } "Algebra" []).deeds = [] := by
  have hfault :
      subtitled.source "Algebra" [] = .error { reason := .missingValue (some "subtitle") } := rfl
  exact ⟨hfault, (subtitled.assemble_leavesNothing _ "Algebra" []).2 _ hfault⟩

end Assembler

end ExamPress.Press
