import ExamPress.Proofs.Batch.Verdict
import ExamPress.Proofs.Files.MakingFolders

/-!
# When an exam can be delivered

Delivering an exam makes the folders on the way to its file and writes the file.  It works out
exactly when the path fits to be that of a file, no file is in the way of the folders, and the file
is not to take the place of a folder, one that is there or one that was just made on the way.  So
it can be told from what is at the places of the path and nowhere else.

## What is here

* `Deliverable` — what has to be so; `deliver_eq_ok_iff` says that it is just that;
* `deliver_ends`, `fileAt?_of_deliver` — what is in the file afterwards;
* `Deliverable.congr` — trees that are alike at the places of a path.
-/

set_option autoImplicit false

namespace ExamPress.Workshop

open ExamPress.Files
open ExamPress.Files.FileTree (Fit)

variable {t t' : FileTree} {path : String} {pdf : ByteArray}

/-- **What has to be so for a file to be delivered.** -/
def Deliverable (t : FileTree) (path : String) : Prop :=
  ∃ folders name, Fit path folders name ∧ t.Clear (t.start path) folders ∧
    t.at? (t.destination path) ≠ some .folder ∧
    ∀ way, way <+: folders → way.foldl Place.move (t.start path) ≠ t.destination path

/-- Delivering is making the folders for all pieces but the last, and then writing. -/
theorem deliver_eq {folders : List String} {name : String} (hfit : Fit path folders name)
    (hmade : t.makeMissing (Path.beginningsAfter "" folders).reverse = (.ok (), t')) :
    deliver t path pdf = writeExam t' path pdf := by
  rcases Path.parent_cases hfit.pieces hfit.ne_empty hfit.ne_dot with
    ⟨hnone, hnil⟩ | ⟨parent, hsome, hbeginnings⟩
  · rw [hnil] at hmade
    obtain rfl : t = t' := congrArg Prod.snd hmade
    rw [deliver, hnone]
  · rw [deliver, hsome]
    simp only [FileTree.makeFolders, hbeginnings, hmade]

theorem writeExam_eq_ok_iff :
    (∃ t', writeExam t path pdf = (.ok (), t')) ↔ ∃ place, t.fileTarget path = .ok place := by
  rw [writeExam, FileTree.write]
  cases t.fileTarget path with
  | error fault => exact iff_of_false (by rintro ⟨t', h⟩; cases h) (by rintro ⟨place, h⟩; cases h)
  | ok place => exact iff_of_true ⟨_, rfl⟩ ⟨_, rfl⟩

/-- **When an exam can be delivered.** -/
theorem deliver_eq_ok_iff (hroot : t.Rooted t.workingFolder) (pdf : ByteArray) :
    (∃ t', deliver t path pdf = (.ok (), t')) ↔ Deliverable t path := by
  constructor
  · rintro ⟨t', h⟩
    obtain ⟨furnished, hfurnished, hdeliver | ⟨parent, fault, -, -, hdeliver⟩⟩ :=
      deliver_cases t path pdf
    · obtain ⟨place, htarget⟩ := writeExam_eq_ok_iff.mp ⟨t', hdeliver ▸ h⟩
      obtain ⟨folders, name, hfit, hopen, hnot, rfl⟩ := FileTree.fileTarget_eq_ok_iff.mp htarget
      rw [FileTree.start_congr hfurnished.workingFolder] at hopen
      rw [hfurnished.destination_eq] at hnot
      refine ⟨folders, name, hfit, hfurnished.clear_iff.mp ?_,
        fun hfolder => hnot (hfurnished.folder hfolder), fun way hway heq => hnot ?_⟩
      · exact fun way hway => FileTree.fileAt?_of_folder (hopen way hway)
      · rw [← heq]
        exact hopen way hway
    · rw [hdeliver] at h
      cases h
  · rintro ⟨folders, name, hfit, hclear, hnot, hapart⟩
    obtain ⟨t', hmade, hopen⟩ := FileTree.makeMissing_open hfit.pieces hfit.check
      (hfit.short.of_prefix (List.prefix_append _ _)) (hroot.start path) hclear List.prefix_rfl
    have hfurnished := t.furnished_makeMissing (Path.beginningsAfter "" folders).reverse
    rw [hmade] at hfurnished
    rw [deliver_eq hfit hmade, writeExam_eq_ok_iff]
    refine ⟨_, FileTree.fileTarget_eq_ok_iff.mpr ⟨folders, name, hfit, ?_, ?_, rfl⟩⟩
    · rwa [FileTree.start_congr hfurnished.workingFolder]
    · rw [hfurnished.destination_eq]
      rcases hfurnished.kept (t.destination path) with hsame | ⟨hmem, -, -⟩
      · rwa [hsame]
      · -- a folder that was made is on the way, and the file is not
        obtain ⟨b, hb, hplace⟩ := List.mem_map.mp hmem
        obtain ⟨qs, q, hqs, hq, rfl⟩ := Path.mem_beginningsAfter (List.mem_reverse.mp hb)
        obtain ⟨hpieces, -, hstart⟩ :=
          FileTree.of_beginning (t := t) hfit.pieces hfit.check hqs hq
        rw [FileTree.destination, hpieces, hstart] at hplace
        exact absurd hplace (hapart _ hqs)

/-- **How delivering ends**: the file is written after its folders were made, or no file is. -/
theorem deliver_ends (t : FileTree) (path : String) (pdf : ByteArray) :
    ∃ furnished, FileTree.Furnished t furnished (foldersOf t path) ∧
      ((∃ t', furnished.write path pdf = .ok t' ∧ deliver t path pdf = (.ok (), t')) ∨
        ∃ failure, deliver t path pdf = (.error failure, furnished)) := by
  obtain ⟨furnished, hfurnished, hdeliver | ⟨parent, fault, -, -, hdeliver⟩⟩ :=
    deliver_cases t path pdf
  · refine ⟨furnished, hfurnished, ?_⟩
    rw [hdeliver, writeExam]
    cases furnished.write path pdf with
    | ok t' => exact .inl ⟨t', rfl, rfl⟩
    | error fault => exact .inr ⟨_, rfl⟩
  · exact ⟨furnished, hfurnished, .inr ⟨_, hdeliver⟩⟩

/-- **What is in the file afterwards.** -/
theorem fileAt?_of_deliver (h : deliver t path pdf = (.ok (), t')) :
    t'.fileAt? (t.destination path) = some pdf := by
  obtain ⟨furnished, hfurnished, ⟨written, hwrite, hdeliver⟩ | ⟨failure, hdeliver⟩⟩ :=
    deliver_ends t path pdf <;> rw [h] at hdeliver <;> cases hdeliver
  rw [← hfurnished.destination_eq]
  exact FileTree.fileAt?_write hwrite

/-! ## What delivering depends on -/

/-- The way of a path that fits goes through its start and through the folders of the path. -/
theorem mem_foldersOf {folders way : List String} {name : String} (hfit : Fit path folders name)
    (hway : way <+: folders) :
    way.foldl Place.move (t.start path) = t.start path ∨
      way.foldl Place.move (t.start path) ∈ foldersOf t path := by
  induction way using List.reverseRecOn with
  | nil => exact .inl rfl
  | append_singleton way p ih =>
    by_cases hstep : Path.isStep (Path.fore way) p = true
    · right
      have hp := Path.ne_empty_of_isStep hstep
      have hmem := Path.mem_beginningsAfter_of_isStep hway hstep
      rcases Path.parent_cases hfit.pieces hfit.ne_empty hfit.ne_dot with
        ⟨-, hnil⟩ | ⟨parent, hparent, hbeginnings⟩
      · simp [hnil] at hmem
      · obtain ⟨hpieces, -, hstart⟩ := FileTree.of_beginning (t := t) hfit.pieces hfit.check hway hp
        rw [foldersOf, (Option.filter_eq_some_iff.mp hparent).1]
        refine List.mem_map.mpr ⟨_, hbeginnings ▸ hmem, ?_⟩
        rw [FileTree.destination, hpieces, hstart]
    · rw [List.foldl_concat, Place.move, if_pos (Path.eq_empty_or_dot_of_not_isStep hstep)]
      exact ih ((List.prefix_append _ _).trans hway)

/-- **Delivering depends on the places of the path only**: which of the folders on the way are
files, and whether the place of the file is that of a folder. -/
theorem Deliverable.congr (hroot : t.Rooted t.workingFolder) (hroot' : t'.Rooted t'.workingFolder)
    (hstart : t'.workingFolder = t.workingFolder)
    (hfiles : ∀ place ∈ foldersOf t path, t'.fileAt? place = t.fileAt? place)
    (hplace : t'.at? (t.destination path) = some .folder ↔
      t.at? (t.destination path) = some .folder) :
    Deliverable t' path ↔ Deliverable t path := by
  have hclear : ∀ folders name, Fit path folders name →
      (t'.Clear (t.start path) folders ↔ t.Clear (t.start path) folders) := by
    intro folders name hfit
    refine forall₂_congr fun way hway => ?_
    rcases mem_foldersOf (t := t) hfit hway with hat | hmem
    · have hfolder := hroot.start path _ List.prefix_rfl
      have hfolder' := hroot'.start path _ List.prefix_rfl
      rw [FileTree.start_congr hstart] at hfolder'
      rw [hat, FileTree.fileAt?_of_folder hfolder, FileTree.fileAt?_of_folder hfolder']
    · rw [hfiles _ hmem]
  rw [Deliverable, Deliverable, FileTree.start_congr hstart, FileTree.destination_congr hstart]
  refine exists_congr fun folders => exists_congr fun name => and_congr_right fun hfit => ?_
  rw [hclear folders name hfit, ne_eq, ne_eq, hplace]

end ExamPress.Workshop
