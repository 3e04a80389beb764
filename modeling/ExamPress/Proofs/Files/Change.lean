import ExamPress.Proofs.Files.Destination

/-!
# What changes a tree of files

Files are written, files grow, and folders are made.  Each of these is told by what it does to the
one place that its path is about and by what it leaves alone.  Writing and growing touch one place,
and never a folder.  Making folders touches many, but only places where nothing was, so the files
stay as they were and every way that could be gone still can.

## What is here

* `fileAt?` — the content of the file at a place;
* `read_write`, `read_append` — what is written is read again;
* `at?_write_of_ne`, `at?_append_of_ne` — nothing else is changed;
* `Furnished` — a tree with more folders, and `furnished_makeFolders` that making folders gives
  no more than that.
-/

set_option autoImplicit false

namespace ExamPress.Files.FileTree

/-- The content of the file at a place, if there is one. -/
def fileAt? (t : FileTree) (place : Place) : Option ByteArray := (t.contentAt place).toOption

variable {t t' t'' : FileTree} {path : String} {place : Place} {content : ByteArray}

theorem contentAt_eq_ok_iff :
    t.contentAt place = .ok content ↔ t.at? place = some (.file content) := by
  rw [contentAt]
  split <;> simp [*]

theorem fileAt?_congr (h : t'.at? place = t.at? place) : t'.fileAt? place = t.fileAt? place := by
  simp [fileAt?, contentAt, h]

theorem fileAt?_eq_some_iff :
    t.fileAt? place = some content ↔ t.at? place = some (.file content) := by
  rw [fileAt?, toOption_eq_some_iff, contentAt_eq_ok_iff]

/-- What is read at a path is the file at its destination. -/
theorem read_eq_ok_iff :
    t.read path = .ok content ↔
      t.resolve path = .ok (t.destination path) ∧
        t.at? (t.destination path) = some (.file content) := by
  simp only [read, bind_eq_ok_iff, contentAt_eq_ok_iff]
  constructor
  · rintro ⟨place, hplace, hfile⟩
    rw [← eq_destination_of_resolve hplace]
    exact ⟨hplace, hfile⟩
  · exact fun h => ⟨_, h⟩

/-- **A file is read in every tree that has the same folders and still has the file.** -/
theorem read_of_folders (h : t.read path = .ok content)
    (hstart : t'.workingFolder = t.workingFolder)
    (hkeep : ∀ place, t.at? place = some .folder → t'.at? place = some .folder)
    (hfile : t'.at? (t.destination path) = t.at? (t.destination path)) :
    t'.read path = .ok content := by
  obtain ⟨hresolve, hthere⟩ := read_eq_ok_iff.mp h
  rw [hthere] at hfile
  rw [read_eq_ok_iff, destination_congr hstart]
  exact ⟨resolve_of_folders hresolve hstart hkeep (by simp [hfile]), hfile⟩

/-- Where a file can be read, and has another content later, that is read. -/
theorem read_of_fileAt? {now : ByteArray} (h : t.read path = .ok content)
    (hstart : t'.workingFolder = t.workingFolder)
    (hkeep : ∀ place, t.at? place = some .folder → t'.at? place = some .folder)
    (hfile : t'.fileAt? (t.destination path) = some now) : t'.read path = .ok now := by
  obtain ⟨hresolve, -⟩ := read_eq_ok_iff.mp h
  rw [fileAt?_eq_some_iff] at hfile
  rw [read_eq_ok_iff, destination_congr hstart]
  exact ⟨resolve_of_folders hresolve hstart hkeep (by simp [hfile]), hfile⟩

/-! ## Files -/

theorem fileTarget_eq_ok (h : t.fileTarget path = .ok place) :
    t.target path .isAFolder = .ok place ∧ Path.endsInSeparator path = false ∧
      t.at? place ≠ some .folder := by
  simp only [fileTarget, bind_eq_ok_iff, iteError_eq_ok_iff] at h
  obtain ⟨place, htarget, hsep, hfolder, hplace⟩ := h
  obtain rfl := Except.ok.inj hplace
  exact ⟨htarget, by simpa using hsep, hfolder⟩

theorem eq_destination_of_fileTarget (h : t.fileTarget path = .ok place) :
    place = t.destination path :=
  eq_destination_of_target (fileTarget_eq_ok h).1

/-- A file that is put where a path gives it a place does not take the place of a folder. -/
theorem folder_put_iff (h : t.at? place ≠ some .folder) (other : Place) :
    (t.put place (.file content)).at? other = some .folder ↔ t.at? other = some .folder := by
  have hne : place ≠ [] := by
    rintro rfl
    exact h rfl
  by_cases heq : other = place
  · rw [heq, t.at?_put_self hne]
    simp [h]
  · rw [t.at?_put_of_ne heq]

/-- A folder that is put anywhere leaves all folders. -/
theorem folder_put_folder {other : Place} (h : t.at? other = some .folder) :
    (t.put place .folder).at? other = some .folder := by
  cases other with
  | nil => rfl
  | cons name other =>
    by_cases heq : name :: other = place
    · rw [← heq, t.at?_put_self (List.cons_ne_nil _ _)]
    · rw [t.at?_put_of_ne heq, h]

/-- **A file that is put where a path gives it a place is read at that path.** -/
theorem read_put_of_fileTarget (h : t.fileTarget path = .ok place) :
    (t.put place (.file content)).read path = .ok content := by
  obtain ⟨htarget, hsep, hfolder⟩ := fileTarget_eq_ok h
  have hne : place ≠ [] := by
    rintro rfl
    exact hfolder rfl
  have hthere := t.at?_put_self hne (.file content)
  have hresolve : (t.put place (.file content)).resolve path = .ok place :=
    resolve_of_target htarget hsep rfl (fun other => (folder_put_iff hfolder other).mpr)
      (by simp [hthere])
  rw [read_eq_ok_iff, ← eq_destination_of_resolve hresolve]
  exact ⟨hresolve, hthere⟩

/-- What it is to have written a file. -/
theorem write_eq_ok (h : t.write path content = .ok t') :
    ∃ place, t.fileTarget path = .ok place ∧ t' = t.put place (.file content) := by
  rw [write, bind_eq_ok_iff] at h
  obtain ⟨place, htarget, h⟩ := h
  exact ⟨place, htarget, (Except.ok.inj h).symm⟩

/-- What it is to have put more at the end of a file: its path gives it a place, and there it is
written anew, with what was there in front. -/
theorem append_eq_ok (h : t.append path content = .ok t') :
    t.fileTarget path = .ok (t.destination path) ∧
      t' = t.put (t.destination path)
        (.file ((t.fileAt? (t.destination path)).getD ByteArray.empty ++ content)) := by
  rw [append, bind_eq_ok_iff] at h
  obtain ⟨place, htarget, h⟩ := h
  obtain rfl := eq_destination_of_fileTarget htarget
  exact ⟨htarget, (Except.ok.inj h).symm⟩

/-- **What was written is read again.** -/
theorem read_write (h : t.write path content = .ok t') : t'.read path = .ok content := by
  obtain ⟨place, htarget, rfl⟩ := write_eq_ok h
  exact read_put_of_fileTarget htarget

/-- **Writing changes nothing else.** -/
theorem at?_write_of_ne (h : t.write path content = .ok t') (hne : place ≠ t.destination path) :
    t'.at? place = t.at? place := by
  obtain ⟨written, htarget, rfl⟩ := write_eq_ok h
  rw [← eq_destination_of_fileTarget htarget] at hne
  exact t.at?_put_of_ne hne _

/-- **What was written is in the file.** -/
theorem fileAt?_write (h : t.write path content = .ok t') :
    t'.fileAt? (t.destination path) = some content := by
  obtain ⟨written, htarget, rfl⟩ := write_eq_ok h
  have hne : written ≠ [] := by
    rintro rfl
    exact (fileTarget_eq_ok htarget).2.2 rfl
  rw [← eq_destination_of_fileTarget htarget, fileAt?, contentAt, t.at?_put_self hne]
  rfl

/-- **What a file held is read again with the rest behind it.** -/
theorem read_append (h : t.append path content = .ok t') :
    t'.read path = .ok ((t.fileAt? (t.destination path)).getD ByteArray.empty ++ content) := by
  obtain ⟨htarget, rfl⟩ := append_eq_ok h
  exact read_put_of_fileTarget htarget

/-- **What a file held is in it with the rest behind it.** -/
theorem fileAt?_append (h : t.append path content = .ok t') :
    t'.fileAt? (t.destination path) =
      some ((t.fileAt? (t.destination path)).getD ByteArray.empty ++ content) := by
  obtain ⟨-, hfile⟩ := read_eq_ok_iff.mp (read_append h)
  obtain ⟨-, rfl⟩ := append_eq_ok h
  exact fileAt?_eq_some_iff.mpr hfile

/-- **Putting more at the end of a file changes nothing else.** -/
theorem at?_append_of_ne (h : t.append path content = .ok t')
    (hne : place ≠ t.destination path) : t'.at? place = t.at? place := by
  obtain ⟨-, rfl⟩ := append_eq_ok h
  exact t.at?_put_of_ne hne _

/-- Putting more at the end of a file makes no folder and takes none away. -/
theorem folder_append_iff (h : t.append path content = .ok t') (place : Place) :
    t'.at? place = some .folder ↔ t.at? place = some .folder := by
  obtain ⟨htarget, rfl⟩ := append_eq_ok h
  exact folder_put_iff (fileTarget_eq_ok htarget).2.2 place

theorem workingFolder_append (h : t.append path content = .ok t') :
    t'.workingFolder = t.workingFolder := by
  obtain ⟨-, rfl⟩ := append_eq_ok h
  rfl

/-! ## Folders -/

/-- **A tree that came from another by making folders**, at some of the given places and only
where nothing was. -/
structure Furnished (t t' : FileTree) (places : List Place) : Prop where
  workingFolder : t'.workingFolder = t.workingFolder
  kept : ∀ place, t'.at? place = t.at? place ∨
    place ∈ places ∧ t.at? place = none ∧ t'.at? place = some .folder

namespace Furnished

variable {places more : List Place}

theorem refl (t : FileTree) (places : List Place) : Furnished t t places :=
  ⟨rfl, fun _ => .inl rfl⟩

theorem mono (h : Furnished t t' places) (hsub : places ⊆ more) : Furnished t t' more :=
  ⟨h.workingFolder, fun place => (h.kept place).imp_right fun hnew => ⟨hsub hnew.1, hnew.2⟩⟩

theorem trans (h : Furnished t t' places) (h' : Furnished t' t'' places) :
    Furnished t t'' places := by
  refine ⟨h'.workingFolder.trans h.workingFolder, fun place => ?_⟩
  rcases h.kept place with hsame | ⟨hmem, hnone, hfolder⟩
  · rw [← hsame]
    exact h'.kept place
  · right
    refine ⟨hmem, hnone, ?_⟩
    rcases h'.kept place with hsame' | ⟨-, -, hfolder'⟩
    · exact hsame'.trans hfolder
    · exact hfolder'

/-- The files are the same. -/
theorem fileAt?_eq (h : Furnished t t' places) (place : Place) :
    t'.fileAt? place = t.fileAt? place := by
  rcases h.kept place with hsame | ⟨-, hnone, hfolder⟩
  · exact fileAt?_congr hsame
  · simp [fileAt?, contentAt, hnone, hfolder, Except.toOption]

theorem destination_eq (h : Furnished t t' places) (path : String) :
    t'.destination path = t.destination path :=
  destination_congr h.workingFolder path

end Furnished

/-- Making a folder puts one where nothing was. -/
theorem furnished_makeFolder (h : t.makeFolder path = .ok t') :
    Furnished t t' [t.destination path] := by
  simp only [makeFolder, bind_eq_ok_iff, iteError_eq_ok_iff] at h
  obtain ⟨place, htarget, hnone, h⟩ := h
  obtain rfl := Except.ok.inj h
  rw [← eq_destination_of_target htarget]
  have hne : place ≠ [] := by
    rintro rfl
    exact hnone rfl
  refine ⟨rfl, fun other => ?_⟩
  by_cases heq : other = place
  · exact .inr ⟨by simp [heq], by simpa [heq] using hnone, heq ▸ t.at?_put_self hne _⟩
  · exact .inl (t.at?_put_of_ne heq _)

/-- Making the folders that are missing puts some where nothing was, also where it is given up. -/
theorem furnished_makeMissing (t : FileTree) (paths : List String) :
    Furnished t (t.makeMissing paths).2 (paths.map t.destination) := by
  induction paths with
  | nil => exact .refl t _
  | cons path shorter ih =>
    have hfirst : [t.destination path] ⊆ (path :: shorter).map t.destination := by simp
    have hshorter : Furnished t (t.makeMissing shorter).2 ((path :: shorter).map t.destination) :=
      ih.mono (by simp)
    rw [makeMissing]
    split
    · next h => exact (furnished_makeFolder h).mono hfirst
    · split
      · next heq => rwa [heq] at hshorter
      · next t' heq =>
        rw [heq] at hshorter
        split
        · next h =>
          have hlast := furnished_makeFolder h
          rw [hshorter.destination_eq] at hlast
          exact hshorter.trans (hlast.mono hfirst)
        · exact hshorter
    · exact .refl t _

/-- **Making a folder and all folders on the way to it makes nothing but folders**, on the way to
it and where nothing was. -/
theorem furnished_makeFolders (t : FileTree) (path : String) :
    Furnished t (t.makeFolders path).2 ((Path.beginnings path).map t.destination) := by
  have h := t.furnished_makeMissing (Path.beginnings path).reverse
  rw [List.map_reverse] at h
  exact h.mono (by simp)

end ExamPress.Files.FileTree
