import ExamPress.Proofs.Files.Beginnings

/-!
# When folders can be made

Making a folder and all folders on the way to it tries the longest path first, goes back to shorter
ones while a folder is missing, and comes forward again.  Whether it works out can be told without
that: it does when no file is in the way.  What has to be followed is which places of the way are
folders: after the folders for some first pieces were made, every place along these pieces is one.

A piece `..` leads up, to a place that the way has come through, or to one above the place where it
started; that these are folders as well is what `Rooted` is for.

## What is here

* `Open`, `Clear`, `Rooted` — a way through folders, a way without files, and a place below folders;
* `walk_of_open`, `open_of_walk`, `walk_cases` — the ways that can be gone;
* `makeFolder_of_open` — making one folder at the end of a way through folders;
* `target_join` — the place of something new in a folder;
* `fileTarget_eq_ok_iff` — writing a file at the end of a way through folders;
* `makeMissing_open` — making the folders along some pieces.
-/

set_option autoImplicit false

namespace ExamPress.Files.FileTree

/-! ## Ways -/

/-- Every place of the way from a first place along some pieces is a folder. -/
def Open (t : FileTree) (first : Place) (ps : List String) : Prop :=
  ∀ way, way <+: ps → t.at? (way.foldl Place.move first) = some .folder

/-- No place of the way from a first place along some pieces is a file. -/
def Clear (t : FileTree) (first : Place) (ps : List String) : Prop :=
  ∀ way, way <+: ps → t.fileAt? (way.foldl Place.move first) = none

/-- A place is a folder, and so are all above it. -/
def Rooted (t : FileTree) (place : Place) : Prop :=
  ∀ above, above <+: place → t.at? above = some .folder

/-- Names that are short enough to be names. -/
def Short (ps : List String) : Prop := ∀ p ∈ ps, p.utf8ByteSize ≤ longestName

variable {t t' : FileTree} {first : Place} {ps : List String} {p : String}

theorem at?_of_fileAt?_eq_none {place : Place} (h : t.fileAt? place = none) :
    t.at? place = none ∨ t.at? place = some .folder := by
  rw [fileAt?, contentAt] at h
  split at h
  · cases h
  · next hfolder => exact .inr hfolder
  · next hnone => exact .inl hnone

theorem fileAt?_of_folder {place : Place} (h : t.at? place = some .folder) :
    t.fileAt? place = none := by
  rw [fileAt?, contentAt, h]
  rfl

theorem forall_prefix_cons {P : List String → Prop} :
    (∀ way, way <+: p :: ps → P way) ↔ P [] ∧ ∀ way, way <+: ps → P (p :: way) := by
  constructor
  · exact fun h => ⟨h [] List.nil_prefix, fun way hway =>
      h _ (List.prefix_cons_inj p |>.mpr hway)⟩
  · rintro ⟨hnil, hcons⟩ way hway
    rcases List.prefix_cons_iff.mp hway with rfl | ⟨rest, rfl, hrest⟩
    · exact hnil
    · exact hcons rest hrest

theorem open_cons_iff :
    t.Open first (p :: ps) ↔ t.at? first = some .folder ∧ t.Open (first.move p) ps :=
  forall_prefix_cons

theorem clear_cons_iff :
    t.Clear first (p :: ps) ↔ t.fileAt? first = none ∧ t.Clear (first.move p) ps :=
  forall_prefix_cons

theorem open_concat_iff : t.Open first (ps ++ [p]) ↔
    t.Open first ps ∧ t.at? ((ps ++ [p]).foldl Place.move first) = some .folder := by
  constructor
  · exact fun h => ⟨fun way hway => h way (hway.trans (List.prefix_append _ _)),
      h _ List.prefix_rfl⟩
  · rintro ⟨hway, hlast⟩ way hinit
    rcases List.prefix_concat_iff.mp hinit with rfl | hinit
    · exact hlast
    · exact hway way hinit

theorem Clear.of_prefix {qs : List String} (h : t.Clear first ps) (hqs : qs <+: ps) :
    t.Clear first qs :=
  fun way hway => h way (hway.trans hqs)

theorem Short.of_prefix {qs : List String} (h : Short ps) (hqs : qs <+: ps) : Short qs :=
  fun q hq => h q (hqs.subset hq)

theorem Open.last (h : t.Open first ps) : t.at? (ps.foldl Place.move first) = some .folder :=
  h ps List.prefix_rfl

/-- **A way through folders can be gone.** -/
theorem walk_of_open (h : t.Open first ps) (hshort : Short ps) :
    ps.foldlM t.step first = .ok (ps.foldl Place.move first) := by
  induction ps generalizing first with
  | nil => rfl
  | cons p ps ih =>
    obtain ⟨hfolder, hrest⟩ := open_cons_iff.mp h
    obtain ⟨hp, hps⟩ := List.forall_mem_cons.mp hshort
    have hnext : t.at? (first.move p) = some .folder := hrest [] List.nil_prefix
    have hstep : t.step first p = .ok (first.move p) :=
      step_eq_ok_iff.mpr ⟨hfolder, rfl, .inr (.inr (.inr ⟨hp, by simp [hnext]⟩))⟩
    rw [List.foldlM_cons, hstep, ok_bind, ih hrest hps]
    rfl

/-- **A way that can be gone to a folder goes through folders.** -/
theorem open_of_walk {place : Place} (h : ps.foldlM t.step first = .ok place)
    (hplace : t.at? place = some .folder) : t.Open first ps ∧ Short ps := by
  induction ps generalizing first with
  | nil =>
    obtain rfl := Except.ok.inj h
    refine ⟨fun way hway => ?_, nofun⟩
    rw [List.prefix_nil.mp hway]
    exact hplace
  | cons p ps ih =>
    rw [List.foldlM_cons, bind_eq_ok_iff] at h
    obtain ⟨next, hstep, h⟩ := h
    obtain ⟨hfolder, rfl, hname⟩ := step_eq_ok_iff.mp hstep
    obtain ⟨hopen, hshort⟩ := ih h
    refine ⟨open_cons_iff.mpr ⟨hfolder, hopen⟩, List.forall_mem_cons.mpr ⟨?_, hshort⟩⟩
    rcases hname with rfl | rfl | rfl | hname
    · decide
    · decide
    · decide
    · exact hname.1

/-- A step is made, or something is missing, unless it starts at a file. -/
theorem step_cases (hnofile : t.fileAt? first = none) (hshort : p.utf8ByteSize ≤ longestName) :
    t.at? first = some .folder ∧ t.step first p = .ok (first.move p) ∨
      t.step first p = .error .notFound := by
  rcases at?_of_fileAt?_eq_none hnofile with hfirst | hfirst
  · right
    rw [step, needFolder, hfirst]
    rfl
  · rw [step, needFolder, hfirst, ok_bind, Place.move]
    by_cases hstay : p = "" ∨ p = "."
    · exact .inl ⟨rfl, by rw [if_pos hstay, if_pos hstay]⟩
    rw [if_neg hstay, if_neg hstay]
    by_cases hup : p = ".."
    · exact .inl ⟨rfl, by rw [if_pos hup, if_pos hup]⟩
    rw [if_neg hup, if_neg hup, if_neg (Nat.not_lt.mpr hshort)]
    split
    · exact .inl ⟨rfl, rfl⟩
    · exact .inr rfl

/-- **A way without files goes through folders, or something is missing.** -/
theorem walk_cases (hclear : t.Clear first ps) (hshort : Short ps) :
    t.Open first ps ∨ ∀ {α : Type} (next : Place → Except Fault α),
      (do let folder ← ps.foldlM t.step first; t.needFolder folder; next folder) =
        .error .notFound := by
  induction ps generalizing first with
  | nil =>
    have hnofile : t.fileAt? first = none := hclear [] List.nil_prefix
    rcases at?_of_fileAt?_eq_none hnofile with hfirst | hfirst
    · refine .inr fun next => ?_
      rw [List.foldlM_nil]
      change (do t.needFolder first; next first) = _
      rw [needFolder, hfirst]
      rfl
    · refine .inl fun way hway => ?_
      rw [List.prefix_nil.mp hway]
      exact hfirst
  | cons p ps ih =>
    obtain ⟨hnofile, hrest⟩ := clear_cons_iff.mp hclear
    obtain ⟨hp, hps⟩ := List.forall_mem_cons.mp hshort
    rcases step_cases hnofile hp with ⟨hfolder, hstep⟩ | hstep
    · refine (ih hrest hps).imp (fun h => open_cons_iff.mpr ⟨hfolder, h⟩) fun h α next => ?_
      rw [List.foldlM_cons, hstep]
      exact h next
    · refine .inr fun next => ?_
      rw [List.foldlM_cons, hstep]
      rfl

/-! ## Places below folders -/

theorem Rooted.move (h : t.Rooted first) (hnext : t.at? (first.move p) = some .folder) :
    t.Rooted (first.move p) := by
  rw [Place.move] at hnext ⊢
  split
  · exact h
  · next hstay =>
    rw [if_neg hstay] at hnext
    split
    · exact fun above habove => h above (habove.trans (List.dropLast_prefix _))
    · next hup =>
      rw [if_neg hup] at hnext
      intro above habove
      rcases List.prefix_concat_iff.mp habove with rfl | habove
      · exact hnext
      · exact h above habove

/-- The end of a way through folders is below folders, if its beginning is. -/
theorem Open.rooted (h : t.Open first ps) (hroot : t.Rooted first) :
    t.Rooted (ps.foldl Place.move first) := by
  induction ps generalizing first with
  | nil => exact hroot
  | cons p ps ih =>
    obtain ⟨-, hrest⟩ := open_cons_iff.mp h
    exact ih hrest (hroot.move (hrest [] List.nil_prefix))

/-- Where the working folder is below folders, every path starts below folders. -/
theorem Rooted.start (h : t.Rooted t.workingFolder) (path : String) : t.Rooted (t.start path) := by
  rw [FileTree.start]
  split
  · intro above habove
    rw [List.prefix_nil.mp habove]
    rfl
  · exact h

/-! ## Making folders keeps ways -/

theorem Furnished.folder {places : List Place} {place : Place} (h : Furnished t t' places)
    (hfolder : t.at? place = some .folder) : t'.at? place = some .folder := by
  rcases h.kept place with hsame | ⟨-, hnone, -⟩
  · rw [hsame, hfolder]
  · simp [hnone] at hfolder

theorem Furnished.clear_iff {places : List Place} (h : Furnished t t' places) :
    t'.Clear first ps ↔ t.Clear first ps := by
  refine forall₂_congr fun way _ => ?_
  rw [h.fileAt?_eq]

theorem Furnished.rooted {places : List Place} {place : Place} (h : Furnished t t' places)
    (hroot : t.Rooted place) : t'.Rooted place :=
  fun above habove => h.folder (hroot above habove)

/-! ## One folder -/

section One

variable {path : String} (hpieces : Path.pieces path = ps ++ [p]) (hempty : p ≠ "")
  (hcheck : checkPath path = .ok ()) (hshort : Short (ps ++ [p]))
include hpieces hcheck

theorem isFolder_of_open (hshort : Short (ps ++ [p]))
    (hopen : t.Open (t.start path) (ps ++ [p])) : t.isFolder path = true := by
  have hresolve : t.resolve path = .ok ((ps ++ [p]).foldl Place.move (t.start path)) := by
    rw [resolve_eq_ok_iff, hpieces]
    exact ⟨hcheck, walk_of_open hopen hshort⟩
  rw [isFolder, entryAt?, hresolve, decide_eq_true_iff]
  exact hopen.last

include hempty

theorem target_of_pieces (onDot : Fault) :
    t.target path onDot = (do
      let folder ← ps.foldlM t.step (t.start path)
      t.needFolder folder
      if p = "." ∨ p = ".." then .error onDot
      else if longestName < p.utf8ByteSize then .error .tooLong
      else .ok (folder ++ [p])) := by
  rw [target, hcheck, ok_bind, Path.names_of_pieces hpieces hempty]
  simp

include hshort

/-- **Making a folder at the end of a way through folders**: it is made, or it is there already. -/
theorem makeFolder_of_open (hopen : t.Open (t.start path) ps) (hroot : t.Rooted (t.start path))
    (hclear : t.Clear (t.start path) (ps ++ [p])) :
    (∃ t', t.makeFolder path = .ok t' ∧ t'.Open (t.start path) (ps ++ [p])) ∨
      t.makeFolder path = .error .alreadyThere ∧ t.isFolder path = true ∧
        t.Open (t.start path) (ps ++ [p]) := by
  have hwalk := walk_of_open hopen (hshort.of_prefix (List.prefix_append _ _))
  have hfolder := needFolder_eq_ok_iff (u := ()).mpr hopen.last
  have hend : (ps ++ [p]).foldl Place.move (t.start path) =
      (ps.foldl Place.move (t.start path)).move p := List.foldl_concat ..
  have hthere : t.at? ((ps.foldl Place.move (t.start path)).move p) = some .folder →
      t.isFolder path = true ∧ t.Open (t.start path) (ps ++ [p]) := fun h => by
    have hopen' := open_concat_iff.mpr ⟨hopen, by rw [hend, h]⟩
    exact ⟨isFolder_of_open hpieces hcheck hshort hopen', hopen'⟩
  rw [makeFolder, target_of_pieces hpieces hempty hcheck, hwalk, ok_bind, hfolder, ok_bind]
  by_cases hdots : p = "." ∨ p = ".."
  · right
    rw [if_pos hdots]
    refine ⟨rfl, hthere ?_⟩
    rcases hdots with rfl | rfl
    · exact hopen.last
    · exact hopen.rooted hroot _ (List.dropLast_prefix _)
  · have hmove := Place.move_of_name hempty (not_or.mp hdots).1 (not_or.mp hdots).2
      (ps.foldl Place.move (t.start path))
    have hlong : ¬longestName < p.utf8ByteSize := Nat.not_lt.mpr (hshort p (by simp))
    rw [if_neg hdots, if_neg hlong, ← hmove, ok_bind]
    cases hat : t.at? ((ps.foldl Place.move (t.start path)).move p) with
    | some entry =>
      right
      refine ⟨rfl, hthere ?_⟩
      have hnofile := hclear _ List.prefix_rfl
      rw [hend] at hnofile
      exact (at?_of_fileAt?_eq_none hnofile).resolve_left (by simp [hat])
    | none =>
      left
      have hnew : (ps.foldl Place.move (t.start path)).move p ≠ [] := by simp [hmove]
      refine ⟨_, rfl, open_concat_iff.mpr ⟨fun way hway => ?_, ?_⟩⟩
      · have hold := hopen way hway
        rw [at?_put_of_ne _ (by rintro heq; simp [heq, hat] at hold), hold]
      · rw [hend, at?_put_self _ hnew]

/-- **Making a folder along a way without files**: it is made, or it is there already, or something
on the way is missing. -/
theorem makeFolder_cases (hroot : t.Rooted (t.start path))
    (hclear : t.Clear (t.start path) (ps ++ [p])) :
    (∃ t', t.makeFolder path = .ok t' ∧ t'.Open (t.start path) (ps ++ [p])) ∨
      t.makeFolder path = .error .alreadyThere ∧ t.isFolder path = true ∧
        t.Open (t.start path) (ps ++ [p]) ∨
      t.makeFolder path = .error .notFound := by
  rcases walk_cases (hclear.of_prefix (List.prefix_append _ _))
    (hshort.of_prefix (List.prefix_append _ _)) with hopen | hmissing
  · exact (makeFolder_of_open hpieces hempty hcheck hshort hopen hroot hclear).imp_right .inl
  · refine .inr (.inr ?_)
    rw [makeFolder, target_of_pieces hpieces hempty hcheck, hmissing]
    rfl

end One

/-- **Something new in a folder** has its place there under its name. -/
theorem target_join {folder name : String} {home : Place} (hname : '/' ∉ name.toList)
    (hempty : name ≠ "") (hdots : ¬(name = "." ∨ name = ".."))
    (hshort : name.utf8ByteSize ≤ longestName)
    (hcheck : checkPath (Path.join folder name) = .ok ()) (hhome : t.resolve folder = .ok home)
    (hfolder : t.at? home = some .folder) (onDot : Fault) :
    t.target (Path.join folder name) onDot = .ok (home ++ [name]) := by
  obtain ⟨ps, hjoin, hps⟩ := Path.pieces_join hname folder
  obtain ⟨-, hwalk⟩ := resolve_eq_ok_iff.mp hhome
  have hstart : t.start (Path.join folder name) = t.start folder := by
    rw [start, Path.isAbsolute_join hname, start]
  have hway : ps.foldlM t.step (t.start folder) = .ok home := by
    rcases hps with hps | hps
    · rwa [hps] at hwalk
    · rw [hps, List.foldlM_append, bind_eq_ok_iff] at hwalk
      obtain ⟨last, hlast, hend⟩ := hwalk
      have hmove := eq_foldl_of_walk hend
      rw [List.foldl_cons, Place.move_empty, List.foldl_nil] at hmove
      rwa [hmove]
  rw [target_of_pieces hjoin hempty hcheck, hstart, hway, ok_bind,
    needFolder_eq_ok_iff (u := ()).mpr hfolder, ok_bind, if_neg hdots,
    if_neg (Nat.not_lt.mpr hshort)]

/-! ## Files at the end of a way -/

/-- **A path by which a file could be written**, as far as its text goes: pieces that lead to a
folder, and a name. -/
structure Fit (path : String) (folders : List String) (name : String) : Prop where
  check : checkPath path = .ok ()
  pieces : Path.pieces path = folders ++ [name]
  short : Short (folders ++ [name])
  ne_empty : name ≠ ""
  ne_dot : name ≠ "."
  ne_dots : name ≠ ".."

theorem Fit.destination_eq {path name : String} {folders : List String}
    (h : Fit path folders name) (t : FileTree) :
    t.destination path = folders.foldl Place.move (t.start path) ++ [name] := by
  rw [destination, h.pieces, List.foldl_concat,
    Place.move_of_name h.ne_empty h.ne_dot h.ne_dots]

/-- **A file can be written** by a path that fits, where the way goes through folders and the file
does not take the place of one. -/
theorem fileTarget_eq_ok_iff {path : String} {place : Place} :
    t.fileTarget path = .ok place ↔ ∃ folders name, Fit path folders name ∧
      t.Open (t.start path) folders ∧ t.at? place ≠ some .folder ∧ place = t.destination path := by
  constructor
  · intro h
    obtain ⟨htarget, hsep, hnot⟩ := fileTarget_eq_ok h
    have hplace := eq_destination_of_target htarget
    obtain ⟨folders, folder, name, -, hcheck, hnames, hwalk, hfolder, hmove, hlen⟩ :=
      target_eq_ok htarget
    have hpath : path ≠ "" := by
      rintro rfl
      exact absurd hcheck (by decide)
    obtain ⟨hopen, hshort⟩ := open_of_walk hwalk hfolder
    refine ⟨folders, name, ⟨hcheck, (Path.pieces_eq_names hpath hsep).trans hnames, ?_, ?_, ?_, ?_⟩,
      hopen, hnot, hplace⟩
    · exact List.forall_mem_append.mpr ⟨hshort, List.forall_mem_singleton.mpr hlen⟩
    all_goals
      rintro rfl
      exact absurd (hmove []) (by decide)
  · rintro ⟨folders, name, hfit, hopen, hnot, rfl⟩
    have hfolder := needFolder_eq_ok_iff (u := ()).mpr hopen.last
    have hdots : ¬(name = "." ∨ name = "..") := not_or.mpr ⟨hfit.ne_dot, hfit.ne_dots⟩
    have hlong : ¬longestName < name.utf8ByteSize := Nat.not_lt.mpr (hfit.short name (by simp))
    have htarget : t.target path .isAFolder = .ok (t.destination path) := by
      rw [target_of_pieces hfit.pieces hfit.ne_empty hfit.check,
        walk_of_open hopen (hfit.short.of_prefix (List.prefix_append _ _)), ok_bind, hfolder,
        ok_bind, if_neg hdots, if_neg hlong, hfit.destination_eq]
    rw [fileTarget, htarget, ok_bind, Path.endsInSeparator_of_pieces hfit.pieces hfit.ne_empty,
      if_neg (by decide), if_neg hnot]

/-! ## The folders along a path -/

/-- What holds of a beginning of a path, as a path of its own. -/
theorem of_beginning {path name q : String} {folders qs : List String}
    (hpieces : Path.pieces path = folders ++ [name]) (hcheck : checkPath path = .ok ())
    (hinit : qs ++ [q] <+: folders) (hq : q ≠ "") :
    Path.pieces (Path.fore qs ++ q) = qs ++ [q] ∧ checkPath (Path.fore qs ++ q) = .ok () ∧
      t.start (Path.fore qs ++ q) = t.start path := by
  have hsep : ∀ p ∈ qs ++ [q], '/' ∉ p.toList := fun p hp =>
    Path.not_mem_of_mem_pieces (show p ∈ Path.pieces path by simp [hpieces, hinit.subset hp])
  have hne : Path.fore qs ++ q ≠ "" := by
    rw [ne_eq, String.append_eq_empty_iff]
    exact fun h => hq h.2
  obtain ⟨rest, hpath⟩ : ∃ rest, path = Path.fore qs ++ q ++ rest := by
    obtain ⟨more, rfl⟩ := hinit
    refine ⟨"/" ++ Path.fore more ++ name, ?_⟩
    rw [Path.eq_fore_append hpieces, Path.fore_append, Path.fore_append]
    simp only [Path.fore, String.append_assoc, String.append_empty]
  refine ⟨Path.pieces_fore_append hsep, checkPath_of_append hne (hpath ▸ hcheck), ?_⟩
  rw [start, start, hpath, Path.isAbsolute_append hne]

/-- **The folders along first pieces of a path can be made** when no file is in the way, and then
the way along these pieces goes through folders. -/
theorem makeMissing_open {path name : String} {folders : List String}
    (hpieces : Path.pieces path = folders ++ [name]) (hcheck : checkPath path = .ok ())
    (hshort : Short folders) (hroot : t.Rooted (t.start path))
    (hclear : t.Clear (t.start path) folders) {ps : List String} (hinit : ps <+: folders) :
    ∃ t', t.makeMissing (Path.beginningsAfter "" ps).reverse = (.ok (), t') ∧
      t'.Open (t.start path) ps := by
  induction ps using List.reverseRecOn with
  | nil =>
    refine ⟨t, rfl, fun way hway => ?_⟩
    rw [List.prefix_nil.mp hway]
    exact hroot _ List.prefix_rfl
  | append_singleton ps p ih =>
    obtain ⟨t₁, hmade, hopen⟩ := ih ((List.prefix_append _ _).trans hinit)
    have hfurnished := t.furnished_makeMissing (Path.beginningsAfter "" ps).reverse
    rw [hmade] at hfurnished
    rw [Path.beginningsAfter_concat, String.empty_append]
    split
    · next hstep =>
      have hp := Path.ne_empty_of_isStep hstep
      obtain ⟨hbpieces, hbcheck, hbstart⟩ := of_beginning (t := t) hpieces hcheck hinit hp
      have hbstart₁ : t₁.start (Path.fore ps ++ p) = t.start path :=
        (start_congr hfurnished.workingFolder _).trans hbstart
      rw [List.reverse_append, List.reverse_singleton, List.singleton_append, makeMissing]
      rw [← hbstart] at hroot hclear
      have hfirst := makeFolder_cases hbpieces hp hbcheck (hshort.of_prefix hinit) hroot
        (hclear.of_prefix hinit)
      rw [hbstart] at hroot hclear hfirst
      rcases hfirst with ⟨t₂, hmade₂, hopen₂⟩ | ⟨hthere, hfolder, hopen₂⟩ | hmissing
      · exact ⟨t₂, by rw [hmade₂], hopen₂⟩
      · exact ⟨t, by rw [hthere]; simp [hfolder], hopen₂⟩
      · -- the folders for the shorter beginnings come first, and then this one is tried again
        rw [hmissing, hmade]
        have hagain := makeFolder_of_open hbpieces hp hbcheck (hshort.of_prefix hinit)
          (hbstart₁ ▸ hopen) (hbstart₁ ▸ hfurnished.rooted hroot)
          (hbstart₁ ▸ hfurnished.clear_iff.mpr (hclear.of_prefix hinit))
        rw [hbstart₁] at hagain
        rcases hagain with ⟨t₂, hmade₂, hopen₂⟩ | ⟨hthere, hfolder, hopen₂⟩
        · exact ⟨t₂, by simp [hmade₂], hopen₂⟩
        · exact ⟨t₁, by simp [hthere, hfolder], hopen₂⟩
    · next hstep =>
      refine ⟨t₁, by simpa using hmade, open_concat_iff.mpr ⟨hopen, ?_⟩⟩
      rw [List.foldl_concat, Place.move, if_pos (Path.eq_empty_or_dot_of_not_isStep hstep)]
      exact hopen.last

end ExamPress.Files.FileTree
