import ExamPress.Batch.Report
import ExamPress.Proofs.Batch.Turns
import ExamPress.Proofs.Exam.Agenda

/-!
# The accounts of a batch

Every good file of the folder of jobs has one turn, in the order of the bytes of the names, and the
job of the settings has the last one; and every turn is counted once, as a success or as failed.
The exit code tells whether there are accounts, and whether they show nothing that failed.  There
are none when the batch cannot be begun, and then only the file of the log may have been written;
or when the jobs cannot be listed.

## What is here

* `Accounts` — what is counted, and how it hangs together with the turns;
* `accounts_of_jobs` — the accounts of a batch whose jobs are found;
* `at?_begin` — what may change before the first turn;
* `command_accounts` — the theorem.
-/

set_option autoImplicit false

namespace ExamPress.Batch

open ExamPress.Files
open ExamPress.Workshop (Turn turns copying copyJob copyShop jobText)

/-- **The accounts of a batch**: a tally and turns, where the names in the folder of jobs are
`names`, the good files among them are `files`, and `own` is the job of the settings. -/
structure Accounts (lookup : String → Option String) (t : FileTree) (names : List String)
    (files : List (String × Job)) (own : Option Job) (turns : List Turn) (tally : Tally) :
    Prop where
  listed : (Settings.ofEnvironment lookup).Lists t names
  /-- The good files are those of the folder. -/
  good : ∀ name job, (name, job) ∈ files ↔
    name ∈ names ∧ JobFile t (Settings.ofEnvironment lookup).examFolder name job
  /-- Each of them is there as often as it is listed. -/
  once : ∀ name job, (name, job) ∈ files → files.count (name, job) = names.count name
  ordered : files.Pairwise fun f g => Text.bytes f.1 ≤ Text.bytes g.1
  selected : ∀ job, own = some job ↔ Settings.OwnJob lookup job
  /-- Each good file has a turn, in the same order, and the last turn is that of the settings. -/
  inTurn : turns.map (·.job) = files.map (·.2) ++ own.toList
  total : tally.total =
    names.countP (fun name => ∃ job, JobFile t (Settings.ofEnvironment lookup).examFolder name job) +
      own.toList.length
  success : tally.success = turns.countP (·.verdict = .delivered)
  sum : tally.success + tally.failed = tally.total

/-! ## The accounts -/

/-- Every verdict is counted once. -/
theorem sum_ofVerdicts (verdicts : List Verdict) :
    (Tally.ofVerdicts verdicts).success + (Tally.ofVerdicts verdicts).failed =
      (Tally.ofVerdicts verdicts).total := by
  rw [Tally.ofVerdicts, List.length_eq_countP_add_countP (· = .delivered)]
  simp

variable {lookup : String → Option String} {t : FileTree} {w : Workshop} {jobs : List Job}

/-- **The accounts of a batch whose jobs are found.** -/
theorem accounts_of_jobs (hjobs : (Settings.ofEnvironment lookup).jobs t = .ok jobs) :
    ∃ names files own, Accounts lookup t names files own (w.turns jobs t)
      (.ofVerdicts ((w.turns jobs t).map (·.verdict))) := by
  obtain ⟨names, hnames, heq⟩ := Settings.jobs_eq_ok_iff.mp hjobs
  have hturns := Workshop.map_job_turns w jobs t
  refine ⟨names, jobFiles t (Settings.ofEnvironment lookup).examFolder names, _,
    { listed := hnames
      good := fun name job => mem_jobFiles
      once := fun name job h => count_jobFiles (mem_jobFiles.mp h).2
      ordered := pairwise_jobFiles _ _ _
      selected := fun job => Settings.ownJob?_ofEnvironment
      inTurn := by rw [hturns, heq]
      total := ?_
      success := by rw [Tally.ofVerdicts, List.countP_map]; rfl
      sum := sum_ofVerdicts _ }⟩
  have hlength := congrArg List.length (hturns.trans heq)
  rw [List.length_map, List.length_append, List.length_map, length_jobFiles] at hlength
  rw [← hlength]
  exact List.length_map _

/-! ## The whole command -/

variable {s : Settings} {program : Press.Program} {time : String}

/-- **What may change before the first turn**: the file that the log begins in. -/
theorem at?_begin {place : Place} (h : place ≠ t.destination s.outputLogFile) :
    (begin s program time t).2.at? place = t.at? place := by
  rw [begin]
  cases hwrite : t.write s.outputLogFile (logHeader time).toUTF8 with
  | error fault => rfl
  | ok written => exact FileTree.at?_write_of_ne hwrite h

/-- There is a tally when the batch could be begun and the jobs were found, and only then. -/
theorem run_eq_ok_iff {tally : Tally} : (run s program time t).1 = .ok tally ↔
    ∃ w jobs, (begin s program time t).1 = .ok w ∧ s.jobs (begin s program time t).2 = .ok jobs ∧
      tally = .ofVerdicts ((w.turns jobs (begin s program time t).2).map (·.verdict)) := by
  rw [run]
  rcases begin s program time t with ⟨failure | w, begun⟩
  · simp
  · cases hjobs : s.jobs begun with
    | error failure => simp [work, hjobs]
    | ok jobs =>
      dsimp only
      rw [Workshop.work_eq_turns hjobs]
      simp [eq_comm]

theorem exitCode_eq_zero_iff {result : Except Failure Tally} :
    (Report.ofResult result).exitCode = 0 ↔ ∃ tally, result = .ok tally ∧ tally.failed = 0 := by
  cases result with
  | error failure => simp [Report.ofResult]
  | ok tally => simp [Report.ofResult, Nat.pos_iff_ne_zero]

theorem exitCode_eq_zero_or_one (result : Except Failure Tally) :
    (Report.ofResult result).exitCode = 0 ∨ (Report.ofResult result).exitCode = 1 := by
  cases result with
  | error failure => exact .inr rfl
  | ok tally =>
    rw [Report.ofResult]
    dsimp only
    split
    · exact .inr rfl
    · exact .inl rfl

/-- **A batch that was carried out**: it could be begun, the jobs were found, and what it came to is
the tally of the accounts. -/
def CarriedOut (lookup : String → Option String) (program : Press.Program) (time : String)
    (t : FileTree) (tally : Tally) : Prop :=
  let s := Settings.ofEnvironment lookup
  let begun := begin s program time t
  (run s program time t).1 = .ok tally ∧
    ∃ w jobs names files own, begun.1 = .ok w ∧ s.jobs begun.2 = .ok jobs ∧
      Accounts lookup begun.2 names files own (w.turns jobs begun.2) tally

theorem carriedOut_iff {tally : Tally} : CarriedOut lookup program time t tally ↔
    (run (Settings.ofEnvironment lookup) program time t).1 = .ok tally := by
  refine ⟨And.left, fun hrun => ⟨hrun, ?_⟩⟩
  obtain ⟨w, jobs, hw, hjobs, rfl⟩ := run_eq_ok_iff.mp hrun
  obtain ⟨names, files, own, haccounts⟩ := accounts_of_jobs (w := w) hjobs
  exact ⟨w, jobs, names, files, own, hw, hjobs, haccounts⟩

/-- **The accounts of a batch, and its exit code.**  When the batch could be begun and the jobs were
found, it is carried out: there is a turn for each good file of the folder, in the order of the
bytes of the names, and a last one for the job of the settings, and each counts as a success or as
failed.  The exit code is zero just when that is so and nothing failed, and else it is one.  When
the batch cannot be begun, it is one, and only the file of the log may have been written. -/
theorem command_accounts (lookup : String → Option String) (program : Press.Program)
    (time : String) (t : FileTree) :
    let s := Settings.ofEnvironment lookup
    let begun := begin s program time t
    let r := command lookup program time t
    (∀ w jobs, begun.1 = .ok w → s.jobs begun.2 = .ok jobs →
      ∃ tally, CarriedOut lookup program time t tally) ∧
    (r.1.exitCode = 0 ↔ ∃ tally, CarriedOut lookup program time t tally ∧ tally.failed = 0) ∧
    (r.1.exitCode ≠ 0 → r.1.exitCode = 1) ∧
    ∀ failure, begun.1 = .error failure → r.1.exitCode = 1 ∧
      ∀ place ≠ t.destination s.outputLogFile, r.2.at? place = t.at? place := by
  intro s begun r
  have hreport : r.1 = .ofResult (run s program time t).1 := rfl
  refine ⟨fun w jobs hw hjobs => ?_, ?_, ?_, fun failure hfailure => ?_⟩
  · exact ⟨_, carriedOut_iff.mpr (run_eq_ok_iff.mpr ⟨w, jobs, hw, hjobs, rfl⟩)⟩
  · simp only [hreport, exitCode_eq_zero_iff, carriedOut_iff, s]
  · rw [hreport]
    exact (exitCode_eq_zero_or_one _).resolve_left
  · have hrun : run s program time t = (.error failure, begun.2) := by
      rw [run, show begin s program time t = (.error failure, begun.2) from Prod.ext hfailure rfl]
    refine ⟨by rw [hreport, hrun]; rfl, fun place hplace => ?_⟩
    have htree : r.2 = begun.2 := congrArg Prod.snd hrun
    rw [htree]
    exact at?_begin hplace

/-! ## A batch with two jobs -/

/-- An environment that selects a question. -/
def ordering (name : String) : Option String := if name = "EXAM_SELECTION" then some "7" else none

/-- A question bank with a question. -/
def lessons : List (Place × Entry) :=
  [(["question_bank"], .folder), (["question_bank", "b.toml"], .file oneQuestion.toUTF8)]

/-- The files before: a job, a template, and a question bank if it is given. -/
def hall (bank : List (Place × Entry)) : FileTree where
  entries := bank ++
    [(["tmp"], .folder), (["exams"], .folder),
      (["exams", "a.toml"], .file (jobText "A" "d").toUTF8),
      (["exam.hbs"], .file "\\question".toUTF8)]

/-- A program that hands out the source as the PDF. -/
def copier : Press.Program := fun request => copying request.contents

/-- The files where the log has begun. -/
def opened (bank : List (Place × Entry)) : FileTree :=
  (hall bank).put ["output.txt"] (.file (logHeader "").toUTF8)

/-- The workshop then, where there is a question bank. -/
def hallShop : Workshop := { copyShop with bank := Bank.empty.insertAll [shelved] }

/-- The job of the environment. -/
def selectedJob : Job := { title := "MaTeX", questions := [7], output := "" }

theorem paths_of_list (t : FileTree) (folder name : String)
    (hexists : t.pathExists folder = true) (hlist : t.list folder = .ok [name])
    (hname : Path.hasExtension "toml" name = true) :
    Toml.paths t folder = .ok [Path.join folder name] := by
  have hnames : Toml.tomlNames [name] = [name] := by simp [Toml.tomlNames, hname]
  rw [Toml.paths, if_pos hexists, hlist]
  dsimp only
  rw [hnames]
  rfl

theorem readings_opened :
    Lesson.questionsIn (opened lessons) (Path.join "question_bank" "b.toml") = [shelved] ∧
      Job.fileIn? (opened lessons) (Path.join "exams" "a.toml") =
        some (Path.join "exams" "a.toml", copyJob "A" "d") ∧
      (Settings.ofEnvironment ordering).ownJob? = some selectedJob ∧
      (hallShop.turns [copyJob "A" "d", selectedJob] (opened lessons)).map (·.verdict) =
        [.delivered, .delivered] := by
  decide +kernel

theorem load_opened :
    Bank.load (opened lessons) "question_bank" = .ok (Bank.empty.insertAll [shelved]) := by
  have hpaths := paths_of_list (opened lessons) "question_bank" "b.toml" rfl rfl rfl
  rw [Bank.load, hpaths, ok_bind, List.flatMap_singleton, readings_opened.1]

theorem begin_hall (bank : List (Place × Entry))
    (hwrite : (hall bank).write "output.txt" (logHeader "").toUTF8 = .ok (opened bank)) :
    begin (Settings.ofEnvironment ordering) copier "" (hall bank) =
      (equip (Settings.ofEnvironment ordering) copier (opened bank), opened bank) := by
  have hlog : (Settings.ofEnvironment ordering).outputLogFile = "output.txt" := rfl
  rw [begin, hlog, hwrite]

theorem equip_opened :
    equip (Settings.ofEnvironment ordering) copier (opened lessons) = .ok hallShop := by
  have hfolder : (Settings.ofEnvironment ordering).questionBankFolder = "question_bank" := rfl
  have htemplate : Template.obtain (opened lessons) (Settings.ofEnvironment ordering) =
      .ok ⟨[.text "\\question".toList]⟩ := rfl
  rw [equip, htemplate, hfolder, load_opened]
  rfl

theorem equip_opened_nil :
    equip (Settings.ofEnvironment ordering) copier (opened []) =
      .error (.files (.missingFolder "question_bank")) := by
  have hload : Bank.load (opened []) (Settings.ofEnvironment ordering).questionBankFolder =
      .error (.missingFolder "question_bank") := rfl
  rw [equip, hload]
  rfl

theorem jobs_opened :
    (Settings.ofEnvironment ordering).jobs (opened lessons) =
      .ok [copyJob "A" "d", selectedJob] := by
  obtain ⟨-, hfile, hown, -⟩ := readings_opened
  have hpaths := paths_of_list (opened lessons) "exams" "a.toml" rfl rfl rfl
  have hfiled : Job.loadAll (opened lessons) "exams" =
      .ok [(Path.join "exams" "a.toml", copyJob "A" "d")] := by
    rw [Job.loadAll, hpaths, ok_bind, List.filterMap_cons, hfile]
    rfl
  have hexists : (opened lessons).pathExists "exams" = true := rfl
  have hfolder : (Settings.ofEnvironment ordering).examFolder = "exams" := rfl
  rw [Settings.jobs, hown, hfolder, hfiled, if_pos hexists]
  rfl

/-- With a question bank, the job and the one of the environment are carried out and nothing fails.
Without one, the batch is not begun, and all but the file of the log is as it was. -/
theorem command_accounts_hall :
    let s := Settings.ofEnvironment ordering
    (begin s copier "" (hall lessons)).1 = .ok hallShop ∧
      s.jobs (begin s copier "" (hall lessons)).2 = .ok [copyJob "A" "d", selectedJob] ∧
      CarriedOut ordering copier "" (hall lessons) { success := 2, failed := 0, total := 2 } ∧
      (command ordering copier "" (hall lessons)).1.exitCode = 0 ∧
      (begin s copier "" (hall [])).1 = .error (.files (.missingFolder "question_bank")) ∧
      (command ordering copier "" (hall [])).1.exitCode = 1 ∧
      ∀ place ≠ ["output.txt"],
        (command ordering copier "" (hall [])).2.at? place = (hall []).at? place := by
  intro s
  have hbegin : begin s copier "" (hall lessons) = (.ok hallShop, opened lessons) := by
    rw [begin_hall lessons rfl, equip_opened]
  have hjobs : s.jobs (begin s copier "" (hall lessons)).2 =
      .ok [copyJob "A" "d", selectedJob] := by
    rw [hbegin]
    exact jobs_opened
  have hbegun : (begin s copier "" (hall lessons)).1 = .ok hallShop := by rw [hbegin]
  have hmissing : (begin s copier "" (hall [])).1 =
      .error (.files (.missingFolder "question_bank")) := by
    rw [begin_hall [] rfl, equip_opened_nil]
  obtain ⟨-, -, -, hverdicts⟩ := readings_opened
  obtain ⟨hcarried, hzero, -⟩ := command_accounts ordering copier "" (hall lessons)
  obtain ⟨-, -, -, hfailed⟩ := command_accounts ordering copier "" (hall [])
  obtain ⟨tally, htally⟩ := hcarried _ _ hbegun hjobs
  -- the tally is that of the verdicts
  obtain ⟨w, jobs, hw, hfound, htold⟩ := run_eq_ok_iff.mp htally.1
  obtain rfl := Except.ok.inj (hbegun.symm.trans hw)
  obtain rfl := Except.ok.inj (hjobs.symm.trans hfound)
  rw [hbegin, hverdicts] at htold
  subst htold
  exact ⟨hbegun, hjobs, htally, hzero.mpr ⟨_, htally, rfl⟩, hmissing, hfailed _ hmissing⟩

end ExamPress.Batch
