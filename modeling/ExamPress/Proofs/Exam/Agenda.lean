import ExamPress.Exam.Job
import ExamPress.Proofs.Question.Loading

/-!
# The jobs of a batch

The jobs are those of the good files of a folder, in the order of the bytes of their names, and
after them the one that the settings give by selecting questions.  A file that is not good counts
for nothing, and a folder that is not there counts as one without files; what cannot be got over is
something under its name that cannot be listed.

## What is here

* `JobFile` — a good file and its job, and `jobFile_iff` that loading finds them;
* `jobFiles` — the good files among names: `count_jobFiles`, `pairwise_jobFiles`,
  `length_jobFiles`;
* `Settings.Lists` — the names that are looked at, and `Settings.jobs_eq_ok_iff` the jobs;
* `Settings.OwnJob`, `Settings.ownJob?_ofEnvironment` — the job of the settings, by what is looked
  up.
-/

set_option autoImplicit false

namespace ExamPress

open ExamPress.Files

/-! ## The files of jobs -/

/-- **A good file of a folder**, and the job in it. -/
structure JobFile (t : FileTree) (folder name : String) (job : Job) : Prop where
  /-- Its extension is that of TOML. -/
  named : ∃ stem, stem ≠ "" ∧ name = stem ++ ".toml"
  /-- Its bytes are a text, and the text is a job. -/
  readable : ∃ text, t.read (Path.join folder name) = .ok (String.toUTF8 text) ∧
    Job.ofToml? text = some job

/-- The job in a file, if there is one. -/
def Job.in? (t : FileTree) (path : String) : Option Job := (Toml.load ofToml? t path).toOption

theorem Job.fileIn?_eq_map (t : FileTree) (path : String) :
    fileIn? t path = (in? t path).map fun job => (path, job) := by
  rw [fileIn?, in?]
  cases Toml.load ofToml? t path <;> rfl

variable {t : FileTree} {folder name : String} {names : List String} {job : Job}

/-- **A good file is one that loading takes a job from.** -/
theorem jobFile_iff : JobFile t folder name job ↔
    Path.hasExtension "toml" name = true ∧ Job.in? t (Path.join folder name) = some job := by
  rw [Path.hasExtension_iff, Job.in?, toOption_eq_some_iff, Toml.load_eq_ok_iff]
  simp only [FileTree.readText_eq_ok_iff]
  exact ⟨fun h => ⟨h.named, h.readable⟩, fun h => ⟨h.1, h.2⟩⟩

instance (t : FileTree) (folder name : String) : Decidable (∃ job, JobFile t folder name job) :=
  decidable_of_iff (Path.hasExtension "toml" name = true ∧
      (Job.in? t (Path.join folder name)).isSome = true) <| by
    simp only [jobFile_iff, exists_and_left, Option.isSome_iff_exists]

/-- **The good files among names**, in the order of their names, each with its job. -/
def jobFiles (t : FileTree) (folder : String) (names : List String) : List (String × Job) :=
  (Toml.tomlNames names).filterMap fun name =>
    (Job.in? t (Path.join folder name)).map fun job => (name, job)

theorem perm_tomlNames (names : List String) :
    (Toml.tomlNames names).Perm (names.filter (Path.hasExtension "toml")) :=
  List.mergeSort_perm _ _

theorem mem_jobFiles :
    (name, job) ∈ jobFiles t folder names ↔ name ∈ names ∧ JobFile t folder name job := by
  simp only [jobFiles, List.mem_filterMap, (perm_tomlNames names).mem_iff, List.mem_filter,
    Option.map_eq_some_iff, Prod.mk.injEq, jobFile_iff]
  constructor
  · rintro ⟨_, ⟨hmem, htoml⟩, _, hjob, rfl, rfl⟩
    exact ⟨hmem, htoml, hjob⟩
  · rintro ⟨hmem, htoml, hjob⟩
    exact ⟨name, ⟨hmem, htoml⟩, job, hjob, rfl, rfl⟩

/-- **A good file is there as often as it is listed.** -/
theorem count_jobFiles (h : JobFile t folder name job) :
    (jobFiles t folder names).count (name, job) = names.count name := by
  obtain ⟨htoml, hjob⟩ := jobFile_iff.mp h
  have hthis : ∀ other, (((Job.in? t (Path.join folder other)).map fun job => (other, job)) =
      some (name, job)) ↔ other = name := by
    intro other
    rw [Option.map_eq_some_iff]
    constructor
    · rintro ⟨_, -, heq⟩
      exact congrArg Prod.fst heq
    · rintro rfl
      exact ⟨job, hjob, rfl⟩
  rw [← List.count_filter htoml, ← (perm_tomlNames names).count_eq, jobFiles, List.count,
    List.countP_filterMap, List.count]
  refine List.countP_congr fun other _ => ?_
  simp only [beq_iff_eq, ← hthis other]
  cases Job.in? t (Path.join folder other) <;> simp

/-- **The good files stand in the order of the bytes of their names.** -/
theorem pairwise_jobFiles (t : FileTree) (folder : String) (names : List String) :
    (jobFiles t folder names).Pairwise fun f g => Text.bytes f.1 ≤ Text.bytes g.1 := by
  refine List.Pairwise.filterMap _ (fun a b hab f hf g hg => ?_) (pairwise_tomlNames names)
  obtain ⟨_, -, rfl⟩ := Option.map_eq_some_iff.mp hf
  obtain ⟨_, -, rfl⟩ := Option.map_eq_some_iff.mp hg
  exact List.not_lt.mp fun h => String.not_lt.mpr hab ((Text.lt_iff_bytes_lt _ _).mpr h)

/-- **How many good files there are.** -/
theorem length_jobFiles (t : FileTree) (folder : String) (names : List String) :
    (jobFiles t folder names).length =
      names.countP fun name => ∃ job, JobFile t folder name job := by
  rw [jobFiles, List.length_filterMap_eq_countP, (perm_tomlNames names).countP_eq,
    List.countP_filter]
  refine List.countP_congr fun name _ => ?_
  simp [jobFile_iff, Option.isSome_iff_exists, and_comm]

/-! ## All jobs -/

namespace Settings

/-- **The names that are looked at**: those in the folder of jobs, and none if it is not there. -/
def Lists (s : Settings) (t : FileTree) (names : List String) : Prop :=
  if t.pathExists s.examFolder then t.list s.examFolder = .ok names else names = []

/-- **All jobs**: those of the good files in the folder, and after them that of the settings. -/
theorem jobs_eq_ok_iff {s : Settings} {jobs : List Job} : s.jobs t = .ok jobs ↔
    ∃ names, s.Lists t names ∧
      jobs = (jobFiles t s.examFolder names).map Prod.snd ++ s.ownJob?.toList := by
  have hfiles : ∀ names, (((Toml.tomlNames names).map (Path.join s.examFolder)).filterMap
      (Job.fileIn? t)).map Prod.snd = (jobFiles t s.examFolder names).map Prod.snd := by
    intro names
    rw [jobFiles, List.filterMap_map, List.map_filterMap, List.map_filterMap]
    refine List.filterMap_congr fun name _ => ?_
    rw [Function.comp_apply, Job.fileIn?_eq_map, Option.map_map, Option.map_map]
    rfl
  simp only [Settings.jobs, Lists]
  split
  · next hexists =>
    rw [Job.loadAll, Toml.paths, if_pos hexists]
    cases t.list s.examFolder with
    | error fault => simp [bind, Except.bind]
    | ok names => simp [-List.filterMap_map, hfiles, eq_comm]
  · next hmissing =>
    have hnone : jobFiles t s.examFolder [] = [] := by simp [jobFiles, Toml.tomlNames]
    simp [hnone, eq_comm]

/-- **The job that is given by what is looked up**: there is one when a selection is set that can be
read and that is not empty. -/
def OwnJob (lookup : String → Option String) (job : Job) : Prop :=
  ∃ text selection, lookup Selection.settingName = some text ∧
    Selection.parse text = .ok selection ∧ selection.ids ≠ [] ∧
    job = { title := (lookup "EXAM_TITLE").getD "MaTeX", questions := selection.ids, output := "" }

theorem ownJob?_ofEnvironment {lookup : String → Option String} :
    (ofEnvironment lookup).ownJob? = some job ↔ OwnJob lookup job := by
  have hselection : (ofEnvironment lookup).examSelection =
      (lookup Selection.settingName).bind readSelection? := rfl
  have htitle : (ofEnvironment lookup).examTitle = (lookup "EXAM_TITLE").getD "MaTeX" := rfl
  simp only [ownJob?, OwnJob, hselection, htitle, readSelection?, Option.map_eq_some_iff,
    Option.bind_eq_some_iff, Option.filter_eq_some_iff, toOption_eq_some_iff, Selection.isEmpty,
    Bool.not_eq_true', List.isEmpty_eq_false_iff]
  constructor
  · rintro ⟨selection, ⟨text, htext, hparse, hne⟩, rfl⟩
    exact ⟨text, selection, htext, hparse, hne, rfl⟩
  · rintro ⟨text, selection, htext, hparse, hne, rfl⟩
    exact ⟨selection, ⟨text, htext, hparse, hne⟩, rfl⟩

end Settings

end ExamPress
