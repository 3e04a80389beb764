import ExamPress.Proofs.Batch.Independence
import ExamPress.Proofs.Text.Lines

/-!
# A title leads nowhere else

When a job gives no name for its file, the name is made from the title, and a title can be anything:
it may go up by `..`, start at the top, or be blank.  The name that is made is always a name of its
own in the output folder.  Its characters are those of the title, except that no separator and no
control character is left, so it is one piece of a path; and its extension comes after something,
so that the piece is not one that stays or goes up.

So a job of this kind writes at two places only, right in the output folder and at the log, and
what else is new in the end are folders on the way to the output folder.  The scratch folder, the
only one that the typesetting program can do anything to, is gone by then.

## What is here

* `Job.IsTame` — a name that leads right into a folder, whatever it was made from;
  `Job.isTame_outputName`;
* `Workshop.foldersOf_join` — the folders on the way to what is in a folder;
* `Workshop.perform_confined` — the theorem.
-/

set_option autoImplicit false

namespace ExamPress

open Files

/-! ## The name of the file -/

namespace Job

/-- A character that may stand in the name of a file: neither a separator nor a control. -/
def IsTameChar (c : Char) : Prop := c ≠ '/' ∧ c ≠ '\\' ∧ isControl c = false

/-- **A tame name** is one piece of a path, other than those that stay or go up.  It has neither
separators nor control characters in it, and the extension of a PDF after something else. -/
structure IsTame (name : String) : Prop where
  piece : Path.pieces name = [name]
  ne_dot : name ≠ "."
  ne_dots : name ≠ ".."
  chars : ∀ c ∈ name.toList, IsTameChar c
  extension : ∃ stem, stem ≠ [] ∧ name.toList = stem ++ ".pdf".toList

/-- What has tame characters only, with the extension behind it, is a tame name. -/
theorem IsTame.of_stem {stem : List Char} (hne : stem ≠ [])
    (hchars : ∀ c ∈ stem, IsTameChar c) :
    IsTame (String.ofList (stem ++ ".pdf".toList)) := by
  have hall : ∀ c ∈ stem ++ ".pdf".toList, IsTameChar c :=
    List.forall_mem_append.mpr ⟨hchars, by simp [IsTameChar, isControl]⟩
  have hlong : 4 < (stem ++ ".pdf".toList).length := by
    have hstem := List.length_pos_of_ne_nil hne
    simpa using hstem
  -- the pieces that stay or go up are too short
  have hshort {name : String} (hname : name.toList.length ≤ 4) :
      String.ofList (stem ++ ".pdf".toList) ≠ name := by
    rintro rfl
    rw [String.toList_ofList] at hname
    omega
  refine ⟨Path.pieces_of_not_mem ?_, hshort (by decide), hshort (by decide), ?_, stem, hne, ?_⟩
  · rw [String.toList_ofList]
    exact fun hsep => (hall '/' hsep).1 rfl
  · rwa [String.toList_ofList]
  · rw [String.toList_ofList]

theorem IsTame.separator_not_mem {name : String} (h : IsTame name) : '/' ∉ name.toList :=
  fun hsep => (h.chars '/' hsep).1 rfl

theorem IsTame.ne_empty {name : String} (h : IsTame name) : name ≠ "" := by
  rintro rfl
  obtain ⟨stem, hne, hstem⟩ := h.extension
  exact hne (List.append_eq_nil_iff.mp hstem.symm).1

/-- A tame name leads to what is right below. -/
theorem IsTame.move {name : String} (h : IsTame name) (place : Place) :
    place.move name = place ++ [name] :=
  Place.move_of_name h.ne_empty h.ne_dot h.ne_dots place

/-- No separator and no control character is left. -/
theorem isTameChar_fileChar (c : Char) : IsTameChar (fileChar c) := by
  rw [fileChar]
  split
  · simp [IsTameChar, isControl]
  · next h => simpa [IsTameChar, not_or, and_assoc] using h

/-- **There is always something that a file can be named by.** -/
theorem stem_ne_nil (title : String) : stem title ≠ [] := by
  rw [stem]
  split
  · decide
  · assumption

theorem isTameChar_of_mem_stem {title : String} {c : Char} (h : c ∈ stem title) :
    IsTameChar c := by
  have hfallback : ∀ c ∈ "exam".toList, IsTameChar c := by simp [IsTameChar, isControl]
  rw [stem] at h
  split at h
  · exact hfallback c h
  · obtain ⟨d, -, rfl⟩ := List.mem_map.mp ((Text.infix_trim _).subset h)
    exact isTameChar_fileChar d

/-- **A name that is made from a title is tame**, whatever the title. -/
theorem isTame_outputName {job : Job} (h : Text.allBlank job.output.toList = true) :
    IsTame job.outputName := by
  rw [outputName, (Text.trim_eq_nil_iff _).mpr h, if_pos rfl]
  exact .of_stem (stem_ne_nil job.title) fun _ => isTameChar_of_mem_stem

end Job

/-! ## Its place -/

namespace Workshop

variable {name : String}

/-- **The folders on the way to what is in a folder** are those on the way to the folder, and this
itself. -/
theorem foldersOf_join (t : FileTree) (folder : String) (h : Job.IsTame name) :
    foldersOf t (Path.join folder name) = (Path.beginnings folder).map t.destination := by
  obtain ⟨ps, hjoin, hfolder⟩ := Path.pieces_join h.separator_not_mem folder
  -- an empty piece at the end of the path of the folder begins nothing
  have hbeginnings : Path.beginnings folder = Path.beginningsAfter "" ps := by
    rcases hfolder with hfolder | hfolder
    · rw [Path.beginnings, hfolder]
    · rw [Path.beginnings, hfolder, Path.beginningsAfter_concat]
      simp [Path.isStep]
  rw [hbeginnings, foldersOf]
  rcases Path.parent_cases hjoin h.ne_empty h.ne_dot with ⟨hnone, hnil⟩ | ⟨parent, hparent, hsame⟩
  · rw [hnil]
    cases hparent : Path.parent? (Path.join folder name) with
    | none => rfl
    | some parent =>
      have hstart : parent = "" := by simpa [hparent] using hnone
      rw [hstart]
      rfl
  · rw [(Option.filter_eq_some_iff.mp hparent).1]
    exact congrArg _ hsame

/-- **A job without a name for its file stays where it belongs.**  The name that is made from its
title is tame, so its exam has its place right in the output folder.  There, and at the log, it may
write.  Any other place is in the end as it was, or it is that of a new folder on the way to the
output folder.  This is so whatever the title is, whatever the files are, and whatever the
typesetting program does in its scratch folder. -/
theorem perform_confined (w : Workshop) (job : Job) (t : FileTree)
    (hblank : Text.allBlank job.output.toList = true) :
    let exam := t.destination w.outputFolder ++ [job.outputName]
    let t' := (w.perform job t).2
    Job.IsTame job.outputName ∧ w.examPlace job t = exam ∧
      ∀ place, place ≠ exam → place ≠ w.logPlace t →
        t'.at? place = t.at? place ∨
          t.at? place = none ∧ t'.at? place = some .folder ∧
            place ∈ (Path.beginnings w.outputFolder).map t.destination := by
  intro exam t'
  have htame := Job.isTame_outputName hblank
  have hexam : w.examPlace job t = exam :=
    t.destination_join w.outputFolder htame.separator_not_mem htame.move
  refine ⟨htame, hexam, fun place hplace hlog => ?_⟩
  have htouched : w.Touched [job] t t' := touched_perform w job t
  have hcases := htouched.at?_cases hlog (by simpa [hexam] using hplace)
  simpa only [List.mem_singleton, exists_eq_left, outputPath, foldersOf_join t _ htame] using hcases

/-- A title that goes up, with both separators, a control character, and blanks around. -/
theorem perform_confined_goingUp :
    let job : Job := { title := " ../a\\b\t ", questions := [7], output := " \n" }
    let r := small.perform job smallTree
    Text.allBlank job.output.toList = true ∧ r.1 = .delivered ∧
      small.examPlace job smallTree = ["exams", ".._a_b_.pdf"] ∧
      r.2.at? ["a"] = none ∧ r.2.at? ["exams", "Algebra.pdf"] = some (.file ⟨#[0]⟩) := by
  intro job r
  have hblank : Text.allBlank job.output.toList = true := by decide
  have h := perform_confined small job smallTree hblank
  have hexam : smallTree.destination small.outputFolder ++ [job.outputName] =
      ["exams", ".._a_b_.pdf"] := by decide +kernel
  have hlog : small.logPlace smallTree = ["failed_exams.txt"] := by decide +kernel
  have hway : (Path.beginnings small.outputFolder).map smallTree.destination = [["exams"]] := by
    decide +kernel
  dsimp only at h
  rw [hexam, hlog, hway] at h
  obtain ⟨-, hplace, hothers⟩ := h
  refine ⟨hblank, by decide +kernel, hplace, ?_, ?_⟩
  · exact (hothers ["a"] (by decide) (by decide)).resolve_right fun h => absurd h.2.2 (by decide)
  · exact (hothers _ (by decide) (by decide)).resolve_right fun h => absurd h.1 (by decide)

end Workshop

end ExamPress
