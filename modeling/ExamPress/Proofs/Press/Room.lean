import ExamPress.Proofs.Press.FirstFault

/-!
# Room for scratch folders

A scratch folder with a source in it can be made wherever there is a folder to make it in, unless
the path of the source is too long: whether it can does not depend on what else is there.  So the
two steps of an exam that touch the files can fail only for what is known beforehand, and the source
fails only in a folder whose own path leaves no room for its name.

The program is given the source and nothing else.  A program that goes by what is in its folder
therefore makes the same of an exam wherever the scratch folder is, and whatever is beside it.

## What is here

* `Scratch.exists_create_iff` — where scratch folders can be made;
* `Scratch.Room`, `Scratch.exists_written_iff` — where they can be made with a source in them;
* `Assembler.result_course_eq_source_iff` — when an exam fails because of the source;
* `Assembler.GoesByContents`, `Assembler.result_course_eq_ok_iff` — what is made of an exam.
-/

set_option autoImplicit false

namespace ExamPress.Press

open ExamPress.Files

namespace Scratch

variable {t t' : FileTree} {root : String}

/-- **A scratch folder can be made just where there is a folder for it**, and its path is not too
long. -/
theorem exists_create_iff :
    (∃ s made, create t root = .ok (s, made)) ↔
      let rootPath := Path.join (Place.path t.workingFolder) root
      FileTree.checkPath (firstPath rootPath) = .ok () ∧
        ∃ place, t.resolve rootPath = .ok place ∧ t.at? place = some .folder := by
  constructor
  · rintro ⟨s, made, hmade⟩
    obtain ⟨hroot, hcheck, hplace, hfolder, -⟩ := create_eq_ok_iff.mp hmade
    exact ⟨hroot ▸ hcheck, s.root, hroot ▸ hplace, hfolder⟩
  · rintro ⟨hcheck, place, hplace, hfolder⟩
    obtain ⟨name, hname⟩ := exists_freeName t place
    exact ⟨⟨place, _, name⟩, _, create_eq_ok_iff.mpr ⟨rfl, hcheck, hplace, hfolder, hname, rfl⟩⟩

/-- **There is room** for scratch folders with a source in them: there is a folder for them, and the
path of the source is not too long. -/
def Room (t : FileTree) (root : String) : Prop :=
  let rootPath := Path.join (Place.path t.workingFolder) root
  FileTree.checkPath (sourcePath rootPath) = .ok () ∧
    ∃ place, t.resolve rootPath = .ok place ∧ t.at? place = some .folder

/-- **A scratch folder can be made, and a source written into it, just where there is room.** -/
theorem exists_written_iff (source : String) :
    (∃ s made written, create t root = .ok (s, made) ∧ s.writeSource made source = .ok written) ↔
      Room t root := by
  constructor
  · rintro ⟨s, made, written, hmade, hwritten⟩
    obtain ⟨hroot, -, hplace, hfolder, -⟩ := create_eq_ok_iff.mp hmade
    obtain ⟨hcheck, -⟩ := writeSource_eq_ok_iff.mp hwritten
    exact ⟨hroot ▸ hcheck, s.root, hroot ▸ hplace, hfolder⟩
  · rintro ⟨hcheck, hfolder⟩
    have hfirst := hcheck
    rw [sourcePath_eq] at hfirst
    have hfirst := FileTree.checkPath_of_append (firstPath_ne_empty _) hfirst
    obtain ⟨s, made, hmade⟩ := exists_create_iff.mpr ⟨hfirst, hfolder⟩
    obtain ⟨hroot, -⟩ := create_eq_ok_iff.mp hmade
    rw [← hroot, FileTree.checkPath_eq_ok_iff] at hcheck
    have hwritten := writeSource_of_create hmade source
    rw [if_neg (Nat.not_lt.mpr hcheck.2.2)] at hwritten
    exact ⟨s, made, _, hmade, hwritten⟩

/-- There is room in every tree that has the same folders. -/
theorem Room.of_folders (h : Room t root) (hstart : t'.workingFolder = t.workingFolder)
    (hkeep : ∀ place, t.at? place = some .folder → t'.at? place = some .folder) :
    Room t' root := by
  obtain ⟨hcheck, place, hplace, hfolder⟩ := h
  rw [Room, hstart]
  exact ⟨hcheck, place,
    FileTree.resolve_of_folders hplace hstart hkeep (by simp [hkeep place hfolder]),
    hkeep place hfolder⟩

end Scratch

namespace Assembler

/-- **A program that goes by the contents of its folder**: what it makes of them is all that it
does. -/
def GoesByContents (a : Assembler) (work : List (Place × Entry) → Run) : Prop :=
  ∀ request, a.program request = work request.contents

variable {a : Assembler} {t : FileTree} {title : String} {questions : List Question}

/-- **The source fails only in a folder whose path leaves no room for its name.** -/
theorem result_course_eq_source_iff {cause : Fault} :
    (a.course t title questions).result = .error (.source cause) ↔
      ∃ source s made, a.source title questions = .ok source ∧
        Scratch.create t a.scratchRoot = .ok (s, made) ∧ cause = .tooLong ∧
        FileTree.longestPath < (Scratch.sourcePath s.rootPath).utf8ByteSize := by
  constructor
  · intro h
    obtain ⟨deeds, hmakes⟩ : ∃ deeds, a.Makes t title questions (.error (.source cause)) deeds :=
      ⟨_, makes_iff.mpr ⟨h, rfl⟩⟩
    cases hmakes with
    | failed hsource hmade hinside =>
      cases hinside with
      | unwritten hwrite =>
        rw [Scratch.writeSource_of_create hmade] at hwrite
        split at hwrite
        · next hlong => exact ⟨_, _, _, hsource, hmade, (Except.error.inj hwrite).symm, hlong⟩
        · cases hwrite
  · rintro ⟨source, s, made, hsource, hmade, rfl, hlong⟩
    have hwrite := Scratch.writeSource_of_create hmade source
    rw [if_pos hlong] at hwrite
    exact (makes_iff.mp (.failed hsource hmade (.unwritten hwrite))).1

variable {work : List (Place × Entry) → Run}

/-- **What is made of an exam** by a program that goes by the contents of its folder: there has to
be room for the folder, and all the rest is a matter of the source. -/
theorem result_course_eq_ok_iff (hwork : a.GoesByContents work) {exam : CompiledExam} :
    (a.course t title questions).result = .ok exam ↔ Scratch.Room t a.scratchRoot ∧
      exam.questionCount = questions.length ∧ ∃ source, a.source title questions = .ok source ∧
        let left := work [([Scratch.sourceName], .file source.toUTF8)]
        left.ending = .exited 0 ∧
          left.contents.lookup [a.compiler.artifactName] = some (.file exam.pdf) := by
  constructor
  · intro h
    obtain ⟨source, s, made, written, hsource, hmade, hwritten, hending, hleft, hcount, -⟩ :=
      a.course_eq_ok h
    rw [hwork, Compiler.request, Scratch.below_writeSource hmade hwritten] at hending hleft
    have hroom := (Scratch.exists_written_iff source).mp ⟨s, made, written, hmade, hwritten⟩
    exact ⟨hroom, hcount, source, hsource, hending, hleft⟩
  · rintro ⟨hroom, hcount, source, hsource, hending, hleft⟩
    obtain ⟨s, made, written, hmade, hwritten⟩ := (Scratch.exists_written_iff source).mpr hroom
    have hrun : a.runIn s written = work [([Scratch.sourceName], .file source.toUTF8)] := by
      rw [runIn, hwork, Compiler.request, Scratch.below_writeSource hmade hwritten]
    rw [← hrun] at hending hleft
    have hmakes := Makes.made hsource hmade (.printed hwritten hending hleft)
    rw [(makes_iff.mp hmakes).1, ← hcount]

end Assembler

end ExamPress.Press
