import ExamPress.Files.Tree
import ExamPress.Proofs.Success
import Mathlib.Data.List.TakeWhile

/-!
# Where paths lead

Whether a path leads anywhere depends on what is in the tree, but where it leads does not: there
are no links, so every piece of a path moves on in the same way whatever is there.  The place that
a path is about can therefore be told from its text and the working folder, and what the tree
decides is only whether the way can be gone.  Going it needs folders, so a way that can be gone in
one tree can be gone in every other that has the same folders.

## What is here

* `Place.move`, `FileTree.destination` — where a path leads, whatever is there;
* `checkPath_eq_ok_iff`, `checkPath_eq_tooLong_iff` — which texts fit to be paths;
* `step_eq_ok_iff` — when a step can be made;
* `walk_of_folders`, `resolve_of_folders` — a way, in a tree that has all folders of another;
* `eq_destination_of_resolve`, `eq_destination_of_target` — what is found at a path, or has its
  place there when it is new, is at the destination;
* `resolve_of_target` — the way to what has been put there.
-/

set_option autoImplicit false

namespace ExamPress.Files

/-! ## Moving -/

/-- Where one piece of a path leads from a place, whatever is there. -/
def Place.move (place : Place) (name : String) : Place :=
  if name = "" ∨ name = "." then place
  else if name = ".." then place.dropLast
  else place ++ [name]

@[simp] theorem Place.move_empty (place : Place) : place.move "" = place := by simp [Place.move]

theorem Place.move_of_name {name : String} (hempty : name ≠ "") (hdot : name ≠ ".")
    (hdots : name ≠ "..") (place : Place) : place.move name = place ++ [name] := by
  simp [Place.move, hempty, hdot, hdots]

theorem foldl_move_replicate (place : Place) (n : Nat) :
    (List.replicate n "").foldl Place.move place = place := by
  induction n with
  | zero => rfl
  | succ n ih => rw [List.replicate_succ, List.foldl_cons, Place.move_empty, ih]

/-- The pieces of a path are its names, and some empty pieces. -/
theorem Path.pieces_eq_names_append (path : String) :
    ∃ n, Path.pieces path = Path.names path ++ List.replicate n "" := by
  let ending := (Path.pieces path).reverse.takeWhile (· = "")
  have hending : ending = List.replicate ending.length "" :=
    List.eq_replicate_iff.mpr ⟨rfl, fun name h => by simpa using List.mem_takeWhile_imp h⟩
  refine ⟨ending.length, ?_⟩
  calc Path.pieces path
      = (ending ++ (Path.pieces path).reverse.dropWhile (· = "")).reverse := by
        rw [List.takeWhile_append_dropWhile, List.reverse_reverse]
    _ = Path.names path ++ ending.reverse := List.reverse_append
    _ = Path.names path ++ List.replicate ending.length "" := by
        conv => lhs; rw [hending, List.reverse_replicate]

/-- The last name of a path is not empty. -/
theorem Path.getLast?_names_ne {path name : String} (h : (Path.names path).getLast? = some name) :
    name ≠ "" := by
  rw [Path.names, List.getLast?_reverse] at h
  have hfirst := List.head?_dropWhile_not (fun x => decide (x = "")) (Path.pieces path).reverse
  rw [h] at hfirst
  simpa using hfirst

/-- The last piece of a text is empty only if the text is, or if it ends in a separator. -/
theorem getLast?_pieces_eq_nil {sep : Char} {s : List Char}
    (h : (Text.pieces sep s).getLast? = some []) : s = [] ∨ s.getLast? = some sep := by
  induction s with
  | nil => exact .inl rfl
  | cons c s ih =>
    have hlonger : s.getLast? = some sep → (c :: s).getLast? = some sep := fun hs => by
      rw [List.getLast?_cons, hs, Option.getD_some]
    rw [Text.pieces] at h
    right
    split at h
    · next hc =>
      rw [List.getLast?_cons_of_ne_nil (Text.pieces_ne_nil sep s)] at h
      rcases ih h with rfl | hs
      · simp [hc]
      · exact hlonger hs
    · cases hp : Text.pieces sep s with
      | nil => exact absurd hp (Text.pieces_ne_nil sep s)
      | cons p ps =>
        rw [hp] at h ih
        cases ps with
        | nil => simp at h
        | cons q ps =>
          rw [List.getLast?_cons_cons] at h ih
          rcases ih h with rfl | hs
          · simp [Text.pieces] at hp
          · exact hlonger hs

/-- A path that does not end in a separator has a name in its last piece. -/
theorem Path.pieces_eq_names {path : String} (hne : path ≠ "")
    (h : Path.endsInSeparator path = false) : Path.pieces path = Path.names path := by
  obtain ⟨n, hn⟩ := Path.pieces_eq_names_append path
  cases n with
  | zero => simpa using hn
  | succ n =>
    have hlast : (Text.pieces '/' path.toList).getLast? = some [] := by
      have hmap : (Path.pieces path).getLast? = some "" := by
        rw [hn, List.replicate_succ', ← List.append_assoc, List.getLast?_concat]
      rw [Path.pieces, List.getLast?_map, Option.map_eq_some_iff] at hmap
      obtain ⟨last, hlast, hempty⟩ := hmap
      rw [hlast, String.ofList_eq_empty_iff.mp hempty]
    rcases getLast?_pieces_eq_nil hlast with hnil | hsep
    · exact absurd (String.toList_eq_nil_iff.mp hnil) hne
    · simp [Path.endsInSeparator, hsep] at h

namespace FileTree

/-! ## Texts that fit to be paths -/

theorem checkPath_eq_ok_iff {path : String} {u : Unit} :
    checkPath path = .ok u ↔
      '\x00' ∉ path.toList ∧ path ≠ "" ∧ path.utf8ByteSize ≤ longestPath := by
  simp [checkPath, iteError_eq_ok_iff]

theorem checkPath_eq_tooLong_iff {path : String} :
    checkPath path = .error .tooLong ↔
      '\x00' ∉ path.toList ∧ longestPath < path.utf8ByteSize := by
  have hlong : longestPath < path.utf8ByteSize → path ≠ "" := by
    rintro h rfl
    exact absurd h (by decide)
  rw [checkPath]
  grind

/-- A beginning of a path fits to be a path if the path does. -/
theorem checkPath_of_append {b rest : String} (hb : b ≠ "")
    (h : checkPath (b ++ rest) = .ok ()) : checkPath b = .ok () := by
  rw [checkPath_eq_ok_iff] at h ⊢
  obtain ⟨hzero, -, hlong⟩ := h
  rw [String.utf8ByteSize_append] at hlong
  exact ⟨fun h => hzero (by simp [h]), hb, Nat.le_of_add_right_le hlong⟩

/-- **More of a path can only make it too long**, where there is no zero in it. -/
theorem checkPath_append {b rest : String} (h : checkPath b = .ok ())
    (hrest : '\x00' ∉ rest.toList) :
    checkPath (b ++ rest) =
      if longestPath < (b ++ rest).utf8ByteSize then .error .tooLong else .ok () := by
  obtain ⟨hzero, hb, -⟩ := checkPath_eq_ok_iff.mp h
  have hnone : (b ++ rest).toList.contains '\x00' = false := by simp [hzero, hrest]
  have hne : b ++ rest ≠ "" := fun h => hb (String.append_eq_empty_iff.mp h).1
  rw [checkPath, hnone, if_neg (by decide), if_neg hne]

/-- Names of one length are the same to a path. -/
theorem checkPath_append_congr {a b : String} (ha : '\x00' ∉ a.toList) (hb : '\x00' ∉ b.toList)
    (h : a.utf8ByteSize = b.utf8ByteSize) (before : String) :
    checkPath (before ++ a) = checkPath (before ++ b) := by
  have hempty : a = "" ↔ b = "" := by
    rw [← String.utf8ByteSize_eq_zero_iff, h, String.utf8ByteSize_eq_zero_iff]
  simp [checkPath, ha, hb, h, hempty, String.utf8ByteSize_append]

/-! ## Steps -/

/-- **The place that a path is about**, whatever is there. -/
def destination (t : FileTree) (path : String) : Place :=
  (Path.pieces path).foldl Place.move (t.start path)

theorem destination_eq_foldl_names (t : FileTree) (path : String) :
    t.destination path = (Path.names path).foldl Place.move (t.start path) := by
  obtain ⟨n, hn⟩ := Path.pieces_eq_names_append path
  rw [destination, hn, List.foldl_append, foldl_move_replicate]

theorem needFolder_eq_ok_iff {t : FileTree} {place : Place} {u : Unit} :
    t.needFolder place = .ok u ↔ t.at? place = some .folder := by
  rw [needFolder]
  split <;> simp [*]

/-- **A step can be made** from a folder, along a piece that moves nowhere or up, or to something
that is there under a name that is not too long; and it leads to where the piece does. -/
theorem step_eq_ok_iff {t : FileTree} {place next : Place} {name : String} :
    t.step place name = .ok next ↔
      t.at? place = some .folder ∧ place.move name = next ∧
        (name = "" ∨ name = "." ∨ name = ".." ∨
          name.utf8ByteSize ≤ longestName ∧ (t.at? next).isSome) := by
  simp only [step, bind_eq_ok_iff, needFolder_eq_ok_iff, exists_const, Place.move]
  refine and_congr_right fun _ => ?_
  by_cases hstay : name = "" ∨ name = "."
  · rcases hstay with rfl | rfl <;> simp
  · rw [if_neg hstay, if_neg hstay]
    rw [not_or] at hstay
    by_cases hup : name = ".."
    · simp [hup]
    · rw [if_neg hup, if_neg hup, iteError_eq_ok_iff, Nat.not_lt]
      simp only [hstay, hup, false_or]
      constructor
      · rintro ⟨hlong, h⟩
        split at h
        · next hthere => exact ⟨Except.ok.inj h, hlong, Except.ok.inj h ▸ hthere⟩
        · cases h
      · rintro ⟨rfl, hlong, hthere⟩
        exact ⟨hlong, if_pos hthere⟩

/-- A way leads to where its pieces move. -/
theorem eq_foldl_of_walk {t : FileTree} {names : List String} {place last : Place}
    (h : names.foldlM t.step place = .ok last) : last = names.foldl Place.move place := by
  induction names generalizing place with
  | nil => exact (Except.ok.inj h).symm
  | cons name names ih =>
    rw [List.foldlM_cons, bind_eq_ok_iff] at h
    obtain ⟨next, hstep, h⟩ := h
    rw [ih h, ← (step_eq_ok_iff.mp hstep).2.1]
    rfl

/-- A way begins at a folder, unless it ends where it begins. -/
theorem folder_of_walk {t : FileTree} {names : List String} {place last : Place}
    (h : names.foldlM t.step place = .ok last) :
    place = last ∨ t.at? place = some .folder := by
  cases names with
  | nil => exact .inl (Except.ok.inj h)
  | cons name names =>
    rw [List.foldlM_cons, bind_eq_ok_iff] at h
    obtain ⟨next, hstep, -⟩ := h
    exact .inr (step_eq_ok_iff.mp hstep).1

/-- **A way can be gone in every tree that has the same folders**, if there is something at its
end. -/
theorem walk_of_folders {t t' : FileTree}
    (hkeep : ∀ place, t.at? place = some .folder → t'.at? place = some .folder)
    {names : List String} {place last : Place} (h : names.foldlM t.step place = .ok last)
    (hlast : (t'.at? last).isSome = true) : names.foldlM t'.step place = .ok last := by
  induction names generalizing place with
  | nil => exact h
  | cons name names ih =>
    rw [List.foldlM_cons, bind_eq_ok_iff] at h ⊢
    obtain ⟨next, hstep, h⟩ := h
    obtain ⟨hfolder, hmove, hname⟩ := step_eq_ok_iff.mp hstep
    have hnext : (t'.at? next).isSome = true := by
      rcases folder_of_walk h with rfl | hnext
      · exact hlast
      · simp [hkeep _ hnext]
    refine ⟨next, step_eq_ok_iff.mpr ⟨hkeep _ hfolder, hmove, ?_⟩, ih h⟩
    exact hname.imp_right (Or.imp_right (Or.imp_right fun h => ⟨h.1, hnext⟩))

theorem start_congr {t t' : FileTree} (h : t'.workingFolder = t.workingFolder) (path : String) :
    t'.start path = t.start path := by
  simp [start, h]

theorem destination_congr {t t' : FileTree} (h : t'.workingFolder = t.workingFolder)
    (path : String) : t'.destination path = t.destination path := by
  simp [destination, start_congr h]

theorem resolve_eq_ok_iff {t : FileTree} {path : String} {place : Place} :
    t.resolve path = .ok place ↔
      checkPath path = .ok () ∧ (Path.pieces path).foldlM t.step (t.start path) = .ok place := by
  simp only [resolve, bind_eq_ok_iff]
  exact ⟨fun ⟨_, h⟩ => h, fun h => ⟨(), h⟩⟩

/-- **What is found at a path is found there in every tree that has the same folders**, if it is
still there. -/
theorem resolve_of_folders {t t' : FileTree} {path : String} {place : Place}
    (h : t.resolve path = .ok place) (hstart : t'.workingFolder = t.workingFolder)
    (hkeep : ∀ place, t.at? place = some .folder → t'.at? place = some .folder)
    (hthere : (t'.at? place).isSome = true) : t'.resolve path = .ok place := by
  obtain ⟨hcheck, hwalk⟩ := resolve_eq_ok_iff.mp h
  rw [resolve_eq_ok_iff, start_congr hstart]
  exact ⟨hcheck, walk_of_folders hkeep hwalk hthere⟩

/-- A path that leads somewhere leads to its destination. -/
theorem eq_destination_of_resolve {t : FileTree} {path : String} {place : Place}
    (h : t.resolve path = .ok place) : place = t.destination path :=
  eq_foldl_of_walk (resolve_eq_ok_iff.mp h).2

/-! ## Something new -/

/-- What has to be so that a path gives a place to something new. -/
theorem target_eq_ok {t : FileTree} {path : String} {onDot : Fault} {place : Place}
    (h : t.target path onDot = .ok place) :
    ∃ before folder name, place = folder ++ [name] ∧ checkPath path = .ok () ∧
      Path.names path = before ++ [name] ∧ before.foldlM t.step (t.start path) = .ok folder ∧
      t.at? folder = some .folder ∧ (∀ place : Place, place.move name = place ++ [name]) ∧
      name.utf8ByteSize ≤ longestName := by
  rw [target, bind_eq_ok_iff] at h
  obtain ⟨_, hcheck, h⟩ := h
  split at h
  · cases h
  · next name hname =>
    obtain ⟨before, hnames⟩ := List.getLast?_eq_some_iff.mp hname
    simp only [hnames, List.dropLast_concat, bind_eq_ok_iff, iteError_eq_ok_iff, not_or,
      Nat.not_lt] at h
    obtain ⟨folder, hwalk, _, hfolder, ⟨hdot, hdots⟩, hlong, hplace⟩ := h
    exact ⟨before, folder, name, (Except.ok.inj hplace).symm, hcheck, hnames, hwalk,
      needFolder_eq_ok_iff.mp hfolder,
      Place.move_of_name (Path.getLast?_names_ne hname) hdot hdots, hlong⟩

/-- **The place for something new is the destination of its path.** -/
theorem eq_destination_of_target {t : FileTree} {path : String} {onDot : Fault} {place : Place}
    (h : t.target path onDot = .ok place) : place = t.destination path := by
  obtain ⟨before, folder, name, rfl, -, hnames, hwalk, -, hmove, -⟩ := target_eq_ok h
  rw [destination_eq_foldl_names, hnames, List.foldl_append, ← eq_foldl_of_walk hwalk]
  exact (hmove folder).symm

/-- **What has been put at the place for something new is found at its path**, in every tree that
has kept the folders. -/
theorem resolve_of_target {t t' : FileTree} {path : String} {onDot : Fault} {place : Place}
    (h : t.target path onDot = .ok place) (hsep : Path.endsInSeparator path = false)
    (hstart : t'.workingFolder = t.workingFolder)
    (hkeep : ∀ place, t.at? place = some .folder → t'.at? place = some .folder)
    (hthere : (t'.at? place).isSome = true) : t'.resolve path = .ok place := by
  obtain ⟨before, folder, name, rfl, hcheck, hnames, hwalk, hfolder, hmove, hlen⟩ := target_eq_ok h
  have hne : path ≠ "" := by
    rintro rfl
    exact absurd hcheck (by decide)
  have hstep : t'.step folder name = .ok (folder ++ [name]) :=
    step_eq_ok_iff.mpr ⟨hkeep _ hfolder, hmove folder, .inr (.inr (.inr ⟨hlen, hthere⟩))⟩
  have hwalk' : before.foldlM t'.step (t.start path) = .ok folder :=
    walk_of_folders hkeep hwalk (by simp [hkeep _ hfolder])
  have hlast : [name].foldlM t'.step folder = .ok (folder ++ [name]) :=
    bind_eq_ok_iff.mpr ⟨_, hstep, rfl⟩
  rw [resolve_eq_ok_iff, Path.pieces_eq_names hne hsep, hnames, start_congr hstart,
    List.foldlM_append]
  exact ⟨hcheck, bind_eq_ok_iff.mpr ⟨folder, hwalk', hlast⟩⟩

end FileTree

end ExamPress.Files
