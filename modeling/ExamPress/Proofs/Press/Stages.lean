import ExamPress.Press.Assembly
import ExamPress.Proofs.Files.Change
import ExamPress.Proofs.Files.Cut

/-!
# The stages of making an exam

When an exam was made, every stage went well: the template was filled, a scratch folder was made,
the source was written into it, and the program was started there, ended with the code zero, and
left the PDF.  Making an exam is read off backwards here, from its result to what was done.

## What is here

* `Compiler.outcome_eq_ok_iff` — how a run ends that has an outcome with the code zero;
* `Assembler.typeset_eq_ok` — what was done where a source was typeset;
* `Assembler.course_eq_ok` — what was done where an exam was made.
-/

set_option autoImplicit false

namespace ExamPress.Press

open ExamPress.Files

/-- Only a run that ended by itself with the code zero has an outcome with that code. -/
theorem Compiler.outcome_eq_ok_iff (c : Compiler) (r : Run) :
    (∃ o, c.outcome r = .ok o ∧ o.exitCode = some 0) ↔ r.ending = .exited 0 := by
  rw [outcome]
  split <;> simp [*]

namespace Assembler

variable (a : Assembler)

/-- What is collected is the file that the program made, and it said that all went well. -/
theorem collect_eq_ok {s : Scratch} {t : FileTree} {o : Outcome} {pdf : ByteArray}
    (h : a.collect s t o = .ok pdf) :
    o.exitCode = some 0 ∧
      t.at? (s.place ++ [a.compiler.artifactName]) = some (.file pdf) := by
  rw [collect] at h
  split at h
  · cases h
  · next hcode =>
    rw [mapError_eq_ok_iff, FileTree.contentAt_eq_ok_iff] at h
    exact ⟨hcode, h⟩
  · cases h

/-- **Where a source was typeset**, it was written into the folder, and the program was started
there, ended with the code zero, and left the PDF. -/
theorem typeset_eq_ok {s : Scratch} {t : FileTree} {source : String} {pdf : ByteArray}
    (h : (a.typeset s t source).result = .ok pdf) :
    ∃ written, s.writeSource t source = .ok written ∧
      (a.program (a.compiler.request s written)).ending = .exited 0 ∧
      (a.program (a.compiler.request s written)).contents.lookup [a.compiler.artifactName] =
        some (.file pdf) ∧
      (a.typeset s t source).deeds =
        [.writeSource s source, .start (a.compiler.request s written)] := by
  rw [typeset] at h ⊢
  split at h
  · cases h
  · next written hwritten =>
    split at h
    · cases h
    · cases h
    · next outcome left hrun =>
      obtain ⟨houtcome, rfl⟩ := Prod.mk.inj hrun
      obtain ⟨hcode, hleft⟩ := a.collect_eq_ok h
      rw [FileTree.at?_graft _ _ _ (List.cons_ne_nil _ _)] at hleft
      exact ⟨written, hwritten, (a.compiler.outcome_eq_ok_iff _).mp ⟨outcome, houtcome, hcode⟩,
        hleft, rfl⟩

/-- **Where an exam was made**, all of its stages went well, one after the other, and the folder
was removed at the end. -/
theorem course_eq_ok {t : FileTree} {title : String} {questions : List Question}
    {exam : CompiledExam} (h : (a.course t title questions).result = .ok exam) :
    ∃ source s made written, a.source title questions = .ok source ∧
      Scratch.create t a.scratchRoot = .ok (s, made) ∧ s.writeSource made source = .ok written ∧
      (a.program (a.compiler.request s written)).ending = .exited 0 ∧
      (a.program (a.compiler.request s written)).contents.lookup [a.compiler.artifactName] =
        some (.file exam.pdf) ∧
      exam.questionCount = questions.length ∧
      (a.course t title questions).deeds =
        [.makeFolder s, .writeSource s source, .start (a.compiler.request s written),
          .removeFolder s] := by
  rw [course] at h ⊢
  split at h
  · cases h
  · next source hsource =>
    split at h
    · cases h
    · next s made hmade =>
      obtain ⟨pdf, hpdf, rfl⟩ := map_eq_ok_iff.mp h
      obtain ⟨written, hwritten, hending, hleft, hdeeds⟩ := a.typeset_eq_ok hpdf
      exact ⟨source, s, made, written, hsource, hmade, hwritten, hending, hleft, rfl,
        by simp [hdeeds]⟩

end Assembler

end ExamPress.Press
