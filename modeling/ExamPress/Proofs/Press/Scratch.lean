import ExamPress.Press.Scratch
import ExamPress.Proofs.Files.Cut
import ExamPress.Proofs.Files.MakingFolders
import Mathlib.Data.List.Nodup
import Mathlib.Data.Nat.Digits.Defs

/-!
# Scratch folders, by what is asked of them

A scratch folder has to be made where there was nothing, and what is asked for that is little.
There has to be a folder for it, and its path must not be too long; a name is always free, because
the names are numbered and what is in the tree takes the name of one number each at most.  The
source then has an empty folder before it.  So it is written, and stands there alone, unless its
own path is too long: it is longer than that of the folder, and it is asked only now.

## What is here

* `Scratch.folderName_injective`, `Scratch.exists_freeName` — a free name;
* `Scratch.create_eq_ok_iff` — when a scratch folder is made, and `Scratch.isFree_of_create` that
  nothing was there;
* `Scratch.writeSource_eq_ok_iff` — when the source is written, `Scratch.writeSource_of_create` that
  in a new folder this is a matter of the length of its path;
* `Scratch.cut_writeSource`, `Scratch.below_writeSource` — what there is then, beside the folder and
  in it;
* `Scratch.makeFolder_path`, `Scratch.write_sourcePath` — the same is done by making a folder and
  writing a file at their paths.
-/

set_option autoImplicit false

namespace ExamPress.Press.Scratch

open ExamPress.Files

/-! ## A free name -/

theorem ofDigitChars_zeros (zeros : Nat) (digits : List Char) :
    Nat.ofDigitChars 10 (List.replicate zeros '0' ++ digits) 0 = Nat.ofDigitChars 10 digits 0 := by
  induction zeros with
  | zero => rfl
  | succ zeros ih =>
    rw [List.replicate_succ, List.cons_append, Nat.ofDigitChars_cons]
    exact ih

/-- Scratch folders with other numbers have other names. -/
theorem folderName_injective {m n : Nat} (h : folderName m = folderName n) : m = n := by
  have hvalue : ∀ n, Nat.ofDigitChars 10 ((folderName n).toList.drop 5) 0 = n := by
    intro n
    have hdrop : (folderName n).toList.drop 5 =
        List.replicate (6 - (Number.natText n).length) '0' ++ Number.natText n := by
      simp [folderName]
    rw [hdrop, ofDigitChars_zeros, Number.natText,
      Nat.ofDigitChars_toDigits (by decide) (by decide)]
  rw [← hvalue m, ← hvalue n, h]

/-- Where no name is found, all that were tried are taken. -/
theorem not_isFree_of_freeName? {t : FileTree} {root : Place} {attempts number : Nat}
    (h : freeName? t root attempts number = none) :
    ∀ i < attempts, t.isFree (root ++ [folderName (number + i)]) = false := by
  induction attempts generalizing number with
  | zero => nofun
  | succ attempts ih =>
    rw [freeName?] at h
    split at h
    · cases h
    · next htaken =>
      rintro (_ | i) hi
      · simpa using htaken
      · have := ih h i (by omega)
        rwa [Nat.add_right_comm, Nat.add_assoc] at this

/-- **A name is free**, since more are tried than there is in the tree. -/
theorem exists_freeName (t : FileTree) (root : Place) :
    ∃ name, freeName? t root (attempts t) 0 = some name := by
  rw [← Option.isSome_iff_exists]
  by_contra hnone
  rw [Option.not_isSome_iff_eq_none] at hnone
  have htaken := not_isFree_of_freeName? hnone
  -- the name below the root that an entry takes
  let nameOf (e : Place × Entry) : Option String := (e.1.drop root.length).head?
  let names := (List.range (attempts t)).map fun i => some (folderName i)
  have hnodup : names.Nodup := by
    refine List.Nodup.map ?_ List.nodup_range
    exact fun i j h => folderName_injective (Option.some.inj h)
  have hsub : names ⊆ t.entries.map nameOf := by
    intro name hname
    obtain ⟨i, hi, rfl⟩ := List.mem_map.mp hname
    have hnot := htaken i (List.mem_range.mp hi)
    rw [Nat.zero_add, ← Bool.not_eq_true, FileTree.isFree_iff_forall_ne] at hnot
    push Not at hnot
    obtain ⟨e, he, way, hway⟩ := hnot
    refine List.mem_map.mpr ⟨e, he, ?_⟩
    simp [nameOf, hway]
  have hlength := hnodup.length_le_of_subset hsub
  simp only [names, attempts, List.length_map, List.length_range] at hlength
  omega

/-! ## Making a folder -/

variable {s : Scratch} {t t' : FileTree}

theorem firstPath_ne_empty (rootPath : String) : firstPath rootPath ≠ "" :=
  Path.join_ne_empty rootPath (by decide)

/-- **A scratch folder is made** where its path is not too long, in a folder that is there, under the
first name that is free. -/
theorem create_eq_ok_iff {root : String} :
    create t root = .ok (s, t') ↔
      s.rootPath = Path.join (Place.path t.workingFolder) root ∧
        FileTree.checkPath (firstPath s.rootPath) = .ok () ∧
        t.resolve s.rootPath = .ok s.root ∧ t.at? s.root = some .folder ∧
        freeName? t s.root (attempts t) 0 = some s.name ∧ t' = t.put s.place .folder := by
  simp only [create, bind_eq_ok_iff, FileTree.needFolder_eq_ok_iff]
  constructor
  · rintro ⟨_, hcheck, place, hplace, _, hfolder, h⟩
    split at h
    · cases h
    · next name hname =>
      obtain ⟨rfl, rfl⟩ := Prod.mk.inj (Except.ok.inj h)
      exact ⟨rfl, hcheck, hplace, hfolder, hname, rfl⟩
  · obtain ⟨place, rootPath, name⟩ := s
    rintro ⟨rfl, hcheck, hplace, hfolder, hname, rfl⟩
    exact ⟨(), hcheck, place, hplace, (), hfolder, by rw [hname]⟩

/-- **A scratch folder is made where nothing was**, and nothing else is changed. -/
theorem isFree_of_create {root : String} (h : create t root = .ok (s, t')) :
    t.isFree s.place = true ∧ t' = t.put s.place .folder := by
  obtain ⟨-, -, -, -, hname, rfl⟩ := create_eq_ok_iff.mp h
  exact ⟨isFree_of_freeName? hname, rfl⟩

/-- Beside a new scratch folder there is all that was there before. -/
theorem cut_of_create {root : String} (h : create t root = .ok (s, t')) : t'.cut s.place = t := by
  obtain ⟨hfree, rfl⟩ := isFree_of_create h
  rw [FileTree.cut_put_self, FileTree.cut_eq_self_of_isFree hfree]

/-! ## The source -/

/-- What stands behind the path of a scratch folder in the path of its source. -/
theorem sourcePath_eq (rootPath : String) :
    sourcePath rootPath = firstPath rootPath ++ ("/" ++ sourceName) :=
  Path.join_join (by decide) rootPath (by decide) (by decide)

/-- **The source is written** where its path is not too long, and no folder is in its place. -/
theorem writeSource_eq_ok_iff {source : String} :
    s.writeSource t source = .ok t' ↔
      FileTree.checkPath (sourcePath s.rootPath) = .ok () ∧
        t.at? (s.place ++ [sourceName]) ≠ some .folder ∧
        t' = t.put (s.place ++ [sourceName]) (.file source.toUTF8) := by
  simp only [writeSource, bind_eq_ok_iff, iteError_eq_ok_iff, Except.ok.injEq]
  constructor
  · rintro ⟨_, hcheck, hnot, rfl⟩
    exact ⟨hcheck, hnot, rfl⟩
  · rintro ⟨hcheck, hnot, rfl⟩
    exact ⟨(), hcheck, hnot, rfl⟩

/-- A new scratch folder has nothing in the place of the source. -/
theorem at?_source_of_create {made : FileTree} {root : String} (h : create t root = .ok (s, made)) :
    made.at? (s.place ++ [sourceName]) = none := by
  obtain ⟨hfree, rfl⟩ := isFree_of_create h
  rw [FileTree.at?_put_of_ne _ (by simp)]
  exact FileTree.at?_eq_none_of_isFree hfree (by simp)

/-- **Into a new scratch folder the source is written unless its path is too long.** -/
theorem writeSource_of_create {made : FileTree} {root : String}
    (h : create t root = .ok (s, made)) (source : String) :
    s.writeSource made source =
      if FileTree.longestPath < (sourcePath s.rootPath).utf8ByteSize then .error .tooLong
      else .ok (made.put (s.place ++ [sourceName]) (.file source.toUTF8)) := by
  obtain ⟨-, hcheck, -⟩ := create_eq_ok_iff.mp h
  have hnone : made.at? (s.place ++ [sourceName]) ≠ some .folder := by simp [at?_source_of_create h]
  rw [writeSource, if_neg hnone, sourcePath_eq, FileTree.checkPath_append hcheck (by decide)]
  split <;> rfl

/-- Writing the source changes nothing beside the folder. -/
theorem cut_writeSource {source : String} (h : s.writeSource t source = .ok t') :
    t'.cut s.place = t.cut s.place := by
  obtain ⟨-, -, rfl⟩ := writeSource_eq_ok_iff.mp h
  exact FileTree.cut_put_append ..

/-- **The program finds the source in its folder, and nothing else.** -/
theorem below_writeSource {made written : FileTree} {root source : String}
    (hmade : create t root = .ok (s, made)) (hwritten : s.writeSource made source = .ok written) :
    written.below s.place = [([sourceName], .file source.toUTF8)] := by
  obtain ⟨hfree, rfl⟩ := isFree_of_create hmade
  rw [FileTree.isFree_iff_forall_ne] at hfree
  obtain ⟨-, -, rfl⟩ := writeSource_eq_ok_iff.mp hwritten
  have hfolder : (t.put s.place .folder).entries = t.entries ++ [(s.place, .folder)] :=
    putEntry_eq_append (fun e he => by simpa using hfree e he []) _
  have hnew : ∀ e ∈ (t.put s.place .folder).entries, e.1 ≠ s.place ++ [sourceName] := by
    rw [hfolder, List.forall_mem_append, List.forall_mem_singleton]
    exact ⟨fun e he => hfree e he _, by simp⟩
  have hothers : t.below s.place = [] := by
    refine List.filterMap_eq_nil_iff.mpr fun e he => ?_
    cases hway : Place.way? s.place e.1 with
    | none => rfl
    | some way => exact absurd (Place.way?_eq_some hway) (hfree e he way)
  rw [FileTree.below] at hothers ⊢
  have hentries : ((t.put s.place .folder).put (s.place ++ [sourceName])
      (.file source.toUTF8)).entries =
        t.entries ++ [(s.place, .folder)] ++ [(s.place ++ [sourceName], .file source.toUTF8)] := by
    rw [← hfolder]
    exact putEntry_eq_append hnew _
  rw [hentries, List.filterMap_append, List.filterMap_append, hothers]
  simp [Place.way?_self, Place.way?_append]

/-! ## By their paths

The paths that are asked about stand for those of the folder and of its source.  They are of the
same length as long as the numbers have six digits. -/

/-- The characters of names of scratch folders are letters and digits. -/
theorem isAlphanum_of_mem_folderName {n : Nat} {c : Char} (h : c ∈ (folderName n).toList) :
    c.isAlphanum = true := by
  simp only [folderName, String.toList_append, String.toList_ofList, List.mem_append] at h
  rcases h with h | h | h
  · have hletters : "MaTeX".toList.all Char.isAlphanum = true := rfl
    exact List.all_eq_true.mp hletters c h
  · rw [List.eq_of_mem_replicate h]
    rfl
  · rw [Char.isAlphanum, Number.isDigit_of_mem_natText h, Bool.or_true]

/-- A letter or a digit is one byte. -/
theorem utf8Size_of_isAlphanum {c : Char} (h : c.isAlphanum = true) : c.utf8Size = 1 := by
  -- each of the three ranges of characters ends below the first one of two bytes
  have hsmall : c.val ≤ 0x7F := by
    rcases Bool.or_eq_true_iff.mp h with hletter | hdigit
    · rcases Bool.or_eq_true_iff.mp hletter with hupper | hlower
      · exact UInt32.le_trans (of_decide_eq_true hupper).2 (by decide)
      · exact UInt32.le_trans (of_decide_eq_true (Bool.and_eq_true_iff.mp hlower).2) (by decide)
    · exact UInt32.le_trans (of_decide_eq_true (Bool.and_eq_true_iff.mp hdigit).2) (by decide)
  exact Char.utf8Size_eq_one_iff.mpr hsmall

/-- A text of letters and digits has as many bytes as characters. -/
theorem utf8ByteSize_of_isAlphanum {s : List Char} (h : ∀ c ∈ s, c.isAlphanum = true) :
    (String.ofList s).utf8ByteSize = s.length := by
  induction s with
  | nil => rfl
  | cons c s ih =>
    obtain ⟨hc, hs⟩ := List.forall_mem_cons.mp h
    rw [String.ofList_cons, String.utf8ByteSize_append, String.utf8ByteSize_singleton,
      utf8Size_of_isAlphanum hc, ih hs, List.length_cons, Nat.add_comm]

theorem utf8ByteSize_folderName {n : Nat} (h : n < 1000000) :
    (folderName n).utf8ByteSize = 11 := by
  have hlength : (Number.natText n).length ≤ 6 := Nat.toDigits_length 10 n 6 (by decide) h
  have hchars : (folderName n).toList.length =
      "MaTeX".toList.length + (6 - (Number.natText n).length + (Number.natText n).length) := by
    simp only [folderName, String.toList_append, List.length_append, String.toList_ofList,
      List.length_replicate]
  have hstart : "MaTeX".toList.length = 5 := rfl
  rw [← String.ofList_toList (s := folderName n),
    utf8ByteSize_of_isAlphanum fun c => isAlphanum_of_mem_folderName, hchars, hstart]
  omega

/-- The name that is found is a numbered one. -/
theorem exists_number_of_freeName? {t : FileTree} {root : Place} {attempts number : Nat}
    {name : String} (h : freeName? t root attempts number = some name) :
    ∃ i < attempts, name = folderName (number + i) := by
  induction attempts generalizing number with
  | zero => cases h
  | succ attempts ih =>
    rw [freeName?] at h
    split at h
    · exact ⟨0, Nat.succ_pos _, (Option.some.inj h).symm⟩
    · obtain ⟨i, hi, rfl⟩ := ih h
      exact ⟨i + 1, Nat.succ_lt_succ hi, by rw [Nat.add_right_comm, Nat.add_assoc]⟩

section

variable {made : FileTree} {root : String}
  (h : create t root = .ok (s, made)) (hfew : t.entries.length < 1000000)
include h hfew

/-- In a tree that is not too large, the number has six digits. -/
theorem exists_number_of_create : ∃ n < 1000000, s.name = folderName n := by
  obtain ⟨-, -, -, -, hname, -⟩ := create_eq_ok_iff.mp h
  obtain ⟨i, hi, heq⟩ := exists_number_of_freeName? hname
  rw [attempts] at hi
  exact ⟨0 + i, by omega, heq⟩

theorem not_mem_name {c : Char} (hc : c.isAlphanum = false) : c ∉ s.name.toList := by
  obtain ⟨n, -, hname⟩ := exists_number_of_create h hfew
  rw [hname]
  exact fun hmem => absurd (isAlphanum_of_mem_folderName hmem) (by simp [hc])

theorem utf8ByteSize_name : s.name.utf8ByteSize = 11 := by
  obtain ⟨n, hn, hname⟩ := exists_number_of_create h hfew
  rw [hname, utf8ByteSize_folderName hn]

theorem name_ne_empty : s.name ≠ "" := by
  have hsize := utf8ByteSize_name h hfew
  rintro hempty
  rw [hempty] at hsize
  exact absurd hsize (by decide)

/-- The path of the folder itself is accepted just when the one is that was asked about. -/
theorem checkPath_path_append (rest : String) (hrest : '\x00' ∉ rest.toList) :
    FileTree.checkPath (s.path ++ rest) =
      FileTree.checkPath (firstPath s.rootPath ++ rest) := by
  have hfirst : (folderName 0).utf8ByteSize = 11 := rfl
  have hzero := not_mem_name h hfew (c := '\x00') rfl
  rw [path, Path.join_eq_append (not_mem_name h hfew rfl), firstPath,
    Path.join_eq_append (by decide), String.append_assoc, String.append_assoc]
  refine FileTree.checkPath_append_congr ?_ ?_ ?_ _
  · simp [hzero, hrest]
  · rw [String.toList_append, List.mem_append]
    exact not_or.mpr ⟨by decide, hrest⟩
  · rw [String.utf8ByteSize_append, utf8ByteSize_name h hfew, String.utf8ByteSize_append, hfirst]

/-- **The path of a scratch folder gives it its place.** -/
theorem target_path (onDot : Fault) : t.target s.path onDot = .ok s.place := by
  obtain ⟨-, hcheck, hplace, hfolder, -⟩ := create_eq_ok_iff.mp h
  have hsize := utf8ByteSize_name h hfew
  have hpath := checkPath_path_append h hfew "" (by decide)
  rw [String.append_empty, String.append_empty, hcheck] at hpath
  refine FileTree.target_join (not_mem_name h hfew rfl) (name_ne_empty h hfew) ?_ ?_ hpath hplace
    hfolder onDot
  · rintro (hdot | hdot) <;> rw [hdot] at hsize <;> exact absurd hsize (by decide)
  · rw [hsize]
    decide

/-- **A scratch folder is made as every folder is**, by its path. -/
theorem makeFolder_path : t.makeFolder s.path = .ok made := by
  have htarget := target_path h hfew .alreadyThere
  obtain ⟨hfree, rfl⟩ := isFree_of_create h
  have hnone : t.at? (s.place ++ []) = none :=
    FileTree.at?_eq_none_of_isFree hfree (by simp [place])
  rw [List.append_nil] at hnone
  rw [FileTree.makeFolder, htarget, ok_bind, hnone]
  rfl

/-- **The source is written as every file is**, by its path. -/
theorem write_sourcePath (source : String) :
    made.write (s.pathOf sourceName) source.toUTF8 = s.writeSource made source := by
  have hname := not_mem_name h hfew (c := '/') rfl
  have hpath : s.pathOf sourceName = s.path ++ ("/" ++ sourceName) :=
    Path.join_join hname s.rootPath (name_ne_empty h hfew) (by decide)
  have hcheck := checkPath_path_append h hfew ("/" ++ sourceName) (by decide)
  rw [← hpath, ← sourcePath_eq] at hcheck
  have hhome : made.resolve s.path = .ok s.place ∧ made.at? s.place = some .folder := by
    have htarget := target_path h hfew .alreadyThere
    obtain ⟨-, rfl⟩ := isFree_of_create h
    have hthere : (t.put s.place .folder).at? s.place = some .folder :=
      t.at?_put_self (by simp [place]) .folder
    exact ⟨FileTree.resolve_of_target htarget
      (Path.endsInSeparator_join hname _ (name_ne_empty h hfew)) rfl
      (fun _ => FileTree.folder_put_folder) (by simp [hthere]), hthere⟩
  have hend : Path.endsInSeparator (s.pathOf sourceName) = false :=
    Path.endsInSeparator_join (by decide) _ (by decide)
  have hnone : made.at? (s.place ++ [sourceName]) ≠ some .folder := by simp [at?_source_of_create h]
  rw [FileTree.write, FileTree.fileTarget, writeSource, ← hcheck, if_neg hnone]
  cases hlong : FileTree.checkPath (s.pathOf sourceName) with
  | error fault =>
    rw [FileTree.target, hlong]
    rfl
  | ok _ =>
    have htarget : made.target (s.pathOf sourceName) .isAFolder =
        .ok (s.place ++ [sourceName]) :=
      FileTree.target_join (by decide) (by decide) (by decide) (by decide) hlong hhome.1 hhome.2 _
    rw [htarget, ok_bind, hend, if_neg (by decide), if_neg hnone]
    rfl

end

end ExamPress.Press.Scratch
