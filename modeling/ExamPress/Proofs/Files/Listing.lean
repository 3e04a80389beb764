import ExamPress.Proofs.Files.Change

/-!
# What is in a folder

The names that a folder lists are those under which there is something right below it.  A listed
name is put after the path of the folder to get at what it names, and the way there is the way to
the folder and one step more, however the path of the folder is written.

## What is here

* `list_eq_ok_iff`, `mem_namesAt_iff` — listing a folder;
* `Path.lead`, `Path.join_eq_append`, `Path.join_join` — the path of something in a folder, and
  `Path.pieces_join` its pieces;
* `resolve_join_iff` — the way to something in a folder; `destination_join` where it leads;
* `read_join_congr` — a file in a folder is read in every tree that has both.
-/

set_option autoImplicit false

namespace ExamPress.Files

/-! ## The path of something in a folder -/

namespace Path

/-- What is put behind a separator gives the pieces that come last. -/
theorem pieces_append_sep (path rest : String) :
    pieces (path ++ "/" ++ rest) = pieces path ++ pieces rest := by
  have htext : (path ++ "/" ++ rest).toList = path.toList ++ '/' :: rest.toList := by simp
  simp only [pieces, htext, Text.pieces_eq_splitOn, List.splitOn_append_cons_self, List.map_append]

theorem pieces_of_not_mem {name : String} (h : '/' ∉ name.toList) : pieces name = [name] := by
  rw [pieces, Text.pieces_eq_splitOn, List.splitOn_eq_singleton h]
  simp

/-- A path that ends in a separator has one behind something. -/
theorem exists_of_endsInSeparator {path : String} (h : endsInSeparator path = true) :
    ∃ before, path = before ++ "/" ++ "" := by
  rw [endsInSeparator, decide_eq_true_iff, List.getLast?_eq_some_iff] at h
  obtain ⟨before, hbefore⟩ := h
  refine ⟨String.ofList before, String.toList_inj.mp ?_⟩
  simp [hbefore]

theorem isAbsolute_append {path : String} (h : path ≠ "") (rest : String) :
    isAbsolute (path ++ rest) = isAbsolute path := by
  cases hpath : path.toList with
  | nil => exact absurd (String.toList_eq_nil_iff.mp hpath) h
  | cons c cs => simp [isAbsolute, hpath]

theorem endsInSeparator_append {rest : String} (h : rest ≠ "") (path : String) :
    endsInSeparator (path ++ rest) = endsInSeparator rest := by
  have hne : rest.toList ≠ [] := fun hnil => h (String.toList_eq_nil_iff.mp hnil)
  rw [endsInSeparator, String.toList_append, List.getLast?_append_of_ne_nil _ hne, endsInSeparator]

/-- What stands before the name in the path of something in a folder. -/
def lead (folder : String) : String :=
  if folder = "" || endsInSeparator folder then folder else folder ++ "/"

variable {name : String} (hname : '/' ∉ name.toList) (folder : String)
include hname

theorem isAbsolute_of_not_mem : isAbsolute name = false := by
  rw [isAbsolute, decide_eq_false_iff_not]
  exact fun h => hname (List.mem_of_mem_head? h)

theorem endsInSeparator_of_not_mem : endsInSeparator name = false := by
  rw [endsInSeparator, decide_eq_false_iff_not]
  exact fun h => hname (List.mem_of_mem_getLast? h)

/-- **The path of something in a folder** ends in its name, and what stands before it is the same
for all. -/
theorem join_eq_append : join folder name = lead folder ++ name := by
  rw [join, isAbsolute_of_not_mem hname, if_neg (by decide), lead]
  split <;> rfl

theorem endsInSeparator_join (hne : name ≠ "") : endsInSeparator (join folder name) = false := by
  rw [join_eq_append hname, endsInSeparator_append hne, endsInSeparator_of_not_mem hname]

omit hname in
theorem join_ne_empty (hne : name ≠ "") : join folder name ≠ "" := by
  have hlead : ∀ before : String, before ++ name ≠ "" := fun before h =>
    hne (String.append_eq_empty_iff.mp h).2
  rw [join]
  split
  · exact hne
  · split
    · exact hlead _
    · exact hlead _

/-- The path of a file in a folder that is named by a folder's path. -/
theorem join_join (hne : name ≠ "") {file : String} (hfile : '/' ∉ file.toList) :
    join (join folder name) file = join folder name ++ ("/" ++ file) := by
  have hlead : lead (join folder name) = join folder name ++ "/" := by
    rw [lead, endsInSeparator_join hname folder hne]
    simp [join_ne_empty folder hne]
  rw [join_eq_append hfile, hlead, String.append_assoc]

/-- **The pieces of a path in a folder** are those of the folder and the name.  An empty piece at
the end of the folder's own path goes. -/
theorem pieces_join : ∃ ps, pieces (join folder name) = ps ++ [name] ∧
    (pieces folder = ps ∨ pieces folder = ps ++ [""]) := by
  rw [join, isAbsolute_of_not_mem hname, if_neg (by decide)]
  by_cases hempty : folder = ""
  · refine ⟨[], ?_, .inr ?_⟩
    · simp [hempty, pieces_of_not_mem hname]
    · simp [hempty, pieces, Text.pieces]
  cases hsep : endsInSeparator folder with
  | true =>
    obtain ⟨before, rfl⟩ := exists_of_endsInSeparator hsep
    have hlast : pieces "" = [""] := rfl
    refine ⟨pieces before, ?_, .inr ?_⟩
    · simpa [pieces_of_not_mem hname] using pieces_append_sep before name
    · rw [pieces_append_sep, hlast]
  | false =>
    refine ⟨pieces folder, ?_, .inl rfl⟩
    simpa [hempty, pieces_of_not_mem hname] using pieces_append_sep folder name

theorem isAbsolute_join : isAbsolute (join folder name) = isAbsolute folder := by
  rw [join, isAbsolute_of_not_mem hname, if_neg (by decide)]
  by_cases hempty : folder = ""
  · have hstart : isAbsolute "" = false := rfl
    simp [hempty, hstart, isAbsolute_of_not_mem hname]
  split
  · exact isAbsolute_append hempty name
  · rw [String.append_assoc]
    exact isAbsolute_append hempty _

end Path

namespace FileTree

variable {t : FileTree} {folder name : String} {place : Place}

/-- **The way to something in a folder** is the way to the folder, and one step more. -/
theorem resolve_join_iff (hname : '/' ∉ name.toList) :
    t.resolve (Path.join folder name) = .ok place ↔
      checkPath (Path.join folder name) = .ok () ∧
        ∃ home, (Path.pieces folder).foldlM t.step (t.start folder) = .ok home ∧
          t.step home name = .ok place := by
  obtain ⟨ps, hjoin, hfolder⟩ := Path.pieces_join hname folder
  have hstart : t.start (Path.join folder name) = t.start folder := by
    rw [start, Path.isAbsolute_join hname, start]
  have hone : ∀ home, [name].foldlM t.step home = .ok place ↔ t.step home name = .ok place :=
    fun home => by simp
  rw [resolve_eq_ok_iff, hjoin, hstart, List.foldlM_append, bind_eq_ok_iff]
  refine and_congr_right fun _ => exists_congr fun home => ?_
  rw [hone]
  refine and_congr_left fun hstep => ?_
  -- an empty piece at the end only asks for a folder, and the step is made from one
  have hstay : t.step home "" = .ok home :=
    step_eq_ok_iff.mpr ⟨(step_eq_ok_iff.mp hstep).1, Place.move_empty home, .inl rfl⟩
  rcases hfolder with hfolder | hfolder
  · rw [hfolder]
  · rw [hfolder, List.foldlM_append, bind_eq_ok_iff]
    constructor
    · exact fun h => ⟨home, h, by simpa using hstay⟩
    · rintro ⟨last, hlast, hend⟩
      have hmove := eq_foldl_of_walk hend
      rw [List.foldl_cons, Place.move_empty, List.foldl_nil] at hmove
      rwa [hmove]

/-- **What is named in a folder is right below it**, if the name leads on. -/
theorem destination_join (t : FileTree) (folder : String) (hname : '/' ∉ name.toList)
    (hmove : ∀ place : Place, place.move name = place ++ [name]) :
    t.destination (Path.join folder name) = t.destination folder ++ [name] := by
  obtain ⟨ps, hjoin, hfolder⟩ := Path.pieces_join hname folder
  have hhome : t.destination folder = ps.foldl Place.move (t.start folder) := by
    rcases hfolder with hfolder | hfolder <;> simp [destination, hfolder]
  rw [hhome, ← hmove, destination, hjoin, start, Path.isAbsolute_join hname, List.foldl_concat]
  rfl

/-- **A file in a folder is read in every tree that has the folder and the same there.** -/
theorem read_join_congr {t' : FileTree} {content : ByteArray} (hname : '/' ∉ name.toList)
    (hstart : t'.workingFolder = t.workingFolder) (hhome : t'.resolve folder = .ok place)
    (hfolder : t'.at? place = some .folder)
    (hsame : t'.at? (place.move name) = t.at? (place.move name))
    (h : t.read (Path.join folder name) = .ok content) :
    t'.read (Path.join folder name) = .ok content := by
  rw [read_eq_ok_iff, resolve_join_iff hname] at h
  obtain ⟨⟨hcheck, home, hwalk, hstep⟩, hfile⟩ := h
  obtain ⟨-, hmove, hnamed⟩ := step_eq_ok_iff.mp hstep
  have hwalk' := (resolve_eq_ok_iff.mp hhome).2
  obtain rfl : home = place := by
    rw [eq_foldl_of_walk hwalk, eq_foldl_of_walk hwalk', start_congr hstart]
  rw [hmove] at hsame
  rw [read_eq_ok_iff, resolve_join_iff hname, destination_congr hstart, hsame]
  refine ⟨⟨hcheck, home, hwalk', step_eq_ok_iff.mpr ⟨hfolder, hmove, ?_⟩⟩, hfile⟩
  rwa [hsame]

/-! ## Listing -/

theorem list_eq_ok_iff {names : List String} :
    t.list folder = .ok names ↔
      ∃ home, t.resolve folder = .ok home ∧ t.at? home = some .folder ∧ t.namesAt home = names := by
  simp only [list, bind_eq_ok_iff, needFolder_eq_ok_iff, exists_const, Except.ok.injEq]

/-- **A folder lists the names under which there is something in it.** -/
theorem mem_namesAt_iff : name ∈ t.namesAt place ↔ (t.at? (place ++ [name])).isSome := by
  have hat : t.at? (place ++ [name]) = t.entries.lookup (place ++ [name]) := by
    rw [at?]
    simp
  rw [hat, List.lookup_isSome_iff]
  simp only [namesAt, below, List.mem_filterMap]
  constructor
  · rintro ⟨below, ⟨e, he, hbelow⟩, hname⟩
    refine ⟨e, he, ?_⟩
    split at hbelow
    · cases hbelow
    · cases hbelow
    · next way hway =>
      cases hbelow
      split at hname
      · next hone => simp [← Option.some.inj hname, ← hone, Place.way?_eq_some hway]
      · cases hname
  · rintro ⟨e, he, hplace⟩
    rw [beq_iff_eq] at hplace
    refine ⟨([name], e.2), ⟨e, he, ?_⟩, rfl⟩
    rw [← hplace, Place.way?_append]

end FileTree

end ExamPress.Files
