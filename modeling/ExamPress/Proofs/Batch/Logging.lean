import ExamPress.Proofs.Batch.Overwriting

/-!
# What the failure log tells of a batch

Where the log can be written at every turn, and no exam is delivered to its file, the log grows by
one entry for each turn that failed, and by nothing in the other turns.  So its entries are those of
the failed turns, in the order of the jobs.

That is not one entry for each job that is counted as failed.  An exam that was made and could not
be written counts as failed as well, and its turn writes nothing into the log.

## What is here

* `LogOpen` — the log can be written; `FailureLog.grown` — a log with more entries;
* `Turn.Noted` — the entry that tells of a turn;
* `fileAt?_log_of_failed` — the step; `fileAt?_log_turns` — the run;
* `work_notesFailures` — the theorem, and when the log tells of every job that is counted as failed;
* `work_unnoted` — jobs that are counted as failed, and no log.
-/

set_option autoImplicit false

namespace ExamPress

open ExamPress.Files
open ExamPress.Batch (performAll)

/-- **A log with more entries** behind what it held.  Where there is none, the first entry makes
one. -/
def FailureLog.grown (log : Option ByteArray) (entries : List String) : Option ByteArray :=
  entries.foldl (fun log entry => some (log.getD ByteArray.empty ++ entry.toUTF8)) log

namespace Workshop

variable {w : Workshop} {jobs : List Job} {t : FileTree} {turn : Turn}

/-- **The log can be written.** -/
def LogOpen (w : Workshop) (t : FileTree) : Prop := ∃ place, t.fileTarget w.failureLog = .ok place

instance : Decidable (w.LogOpen t) :=
  decidable_of_iff ((t.fileTarget w.failureLog).toOption.isSome = true) <| by
    simp only [Option.isSome_iff_exists, toOption_eq_some_iff, LogOpen]

/-- **An entry tells of a turn**: its title, and why there is no exam. -/
def Turn.Noted (w : Workshop) (turn : Turn) (entry : String) : Prop :=
  ∃ reason diagnostics, w.Setback turn.job turn.found reason diagnostics ∧
    entry = FailureLog.entry turn.job.title reason diagnostics

/-- Where the log can be written, a failure is noted. -/
theorem append_noteFailure (hopen : w.LogOpen t) (job : Job) (reason : String)
    (diagnostics : Option String) :
    t.append w.failureLog (FailureLog.entry job.title reason diagnostics).toUTF8 =
      .ok (w.noteFailure t job reason diagnostics) := by
  obtain ⟨place, hplace⟩ := hopen
  rw [noteFailure, FailureLog.note, FileTree.append, hplace]
  rfl

/-- **The step**: a turn that failed has made the log longer by the entry that tells of it. -/
theorem fileAt?_log_of_failed (hperform : turn.Performs w) (hopen : w.LogOpen turn.found)
    (hfailed : turn.verdict = .failed) :
    ∃ entry, turn.Noted w entry ∧ turn.left.fileAt? (w.logPlace turn.found) =
      FailureLog.grown (turn.found.fileAt? (w.logPlace turn.found)) [entry] := by
  obtain ⟨reason, diagnostics, hsetback, hleft⟩ := setback_of_failed hperform hfailed
  refine ⟨_, ⟨reason, diagnostics, hsetback, rfl⟩, ?_⟩
  rw [hleft]
  exact FileTree.fileAt?_append (append_noteFailure hopen turn.job reason diagnostics)

/-- **The run**: the log has grown by the entries that tell of the turns that failed. -/
theorem fileAt?_log_turns (hopen : ∀ turn ∈ w.turns jobs t, w.LogOpen turn.found)
    (hapart : ∀ turn ∈ w.turns jobs t, turn.verdict = .delivered →
      w.examPlace turn.job turn.found ≠ w.logPlace turn.found) :
    ∃ entries,
      List.Forall₂ (Turn.Noted w) ((w.turns jobs t).filter (·.verdict = .failed)) entries ∧
        (performAll w jobs t).2.fileAt? (w.logPlace t) =
          FailureLog.grown (t.fileAt? (w.logPlace t)) entries := by
  induction jobs generalizing t with
  | nil => exact ⟨[], .nil, rfl⟩
  | cons job jobs ih =>
    rw [turns_cons, List.forall_mem_cons] at hopen hapart
    obtain ⟨entries, hentries, hlog⟩ := ih hopen.2 hapart.2
    rw [(touched_perform w job t).logPlace_eq] at hlog
    rw [performAll_cons, turns_cons, List.filter_cons, hlog]
    split
    · next hfailed =>
      obtain ⟨entry, hentry, hgrown⟩ :=
        fileAt?_log_of_failed (performs_turnOf w job t) hopen.1 (of_decide_eq_true hfailed)
      dsimp only [turnOf] at hgrown
      exact ⟨entry :: entries, .cons hentry hentries, by rw [hgrown]; rfl⟩
    · next hnot =>
      have hkept : (w.perform job t).2.fileAt? (w.logPlace t) = t.fileAt? (w.logPlace t) := by
        refine fileAt?_left (performs_turnOf w job t) ?_
        rintro (⟨hdelivered, hplace⟩ | ⟨hfailed, -⟩)
        · exact hapart.1 hdelivered hplace
        · exact hnot (decide_eq_true hfailed)
      exact ⟨entries, hentries, by rw [hkept]⟩

/-- Jobs that are counted as failed have all failed in their turns just when none of them was
undeliverable. -/
theorem countP_failed_iff (verdicts : List Verdict) :
    verdicts.countP (· = .failed) = verdicts.countP (· ≠ .delivered) ↔
      ∀ verdict ∈ verdicts, ∀ failure, verdict ≠ .undeliverable failure := by
  have hle : ∀ verdicts : List Verdict,
      verdicts.countP (· = .failed) ≤ verdicts.countP (· ≠ .delivered) :=
    fun verdicts => List.countP_mono_left (by simp +contextual)
  induction verdicts with
  | nil => simp
  | cons verdict verdicts ih =>
    rw [List.forall_mem_cons, and_congr_right' ih.symm, List.countP_cons, List.countP_cons]
    cases verdict with
    | delivered => simp
    | failed => simp
    | undeliverable failure =>
      have hless := (Nat.lt_succ_of_le (hle verdicts)).ne
      exact iff_of_false (by simpa using hless) fun h => h.1 failure rfl

/-- **What the log tells of a batch.**  Where the log can be written at every turn, and no exam is
delivered to its file, the log has grown by one entry for each turn that failed, in the order of the
jobs, each with the title of its job; and it has one entry for each job that is counted as failed
just when none was undeliverable. -/
theorem work_notesFailures (w : Workshop) (s : Settings) (t : FileTree) (jobs : List Job)
    (hjobs : s.jobs t = .ok jobs) (hopen : ∀ turn ∈ w.turns jobs t, w.LogOpen turn.found)
    (hapart : ∀ turn ∈ w.turns jobs t, turn.verdict = .delivered →
      w.examPlace turn.job t ≠ w.logPlace t) :
    let turns := w.turns jobs t
    let r := Batch.work s w t
    ∃ tally entries, r.1 = .ok tally ∧
      List.Forall₂ (Turn.Noted w) (turns.filter (·.verdict = .failed)) entries ∧
      r.2.fileAt? (w.logPlace t) = FailureLog.grown (t.fileAt? (w.logPlace t)) entries ∧
      (entries.length = tally.failed ↔
        ∀ turn ∈ turns, ∀ failure, turn.verdict ≠ .undeliverable failure) := by
  intro turns r
  have hwork : r = _ := work_eq_turns hjobs
  obtain ⟨entries, hentries, hlog⟩ := fileAt?_log_turns hopen fun turn hturn hdelivered => by
    obtain ⟨-, hfound, -⟩ := of_mem_turns hturn
    rw [hfound.examPlace_eq, hfound.logPlace_eq]
    exact hapart turn hturn hdelivered
  refine ⟨.ofVerdicts (turns.map (·.verdict)), entries, by rw [hwork], hentries,
    by rw [hwork, hlog], ?_⟩
  have hcount : entries.length = (turns.map (·.verdict)).countP (· = .failed) := by
    rw [← hentries.length_eq, List.countP_map, List.countP_eq_length_filter]
    rfl
  rw [hcount, Batch.Tally.ofVerdicts, countP_failed_iff, List.forall_mem_map]

/-- One exam is delivered, and for the other there is an entry. -/
theorem work_notesFailures_strict :
    let t := desk "e"
    let jobs := [copyJob "A" "d", copyJob "B" "e"]
    let turns := strictShop.turns jobs t
    oneAtATime.jobs t = .ok jobs ∧
      (∀ turn ∈ turns, strictShop.LogOpen turn.found) ∧
      (∀ turn ∈ turns, turn.verdict = .delivered →
        strictShop.examPlace turn.job t ≠ strictShop.logPlace t) ∧
      ∃ tally entries, (Batch.work oneAtATime strictShop t).1 = .ok tally ∧
        (Batch.work oneAtATime strictShop t).2.fileAt? (strictShop.logPlace t) =
          FailureLog.grown none entries ∧
        entries.length = tally.failed := by
  intro t jobs turns
  have hopen : ∀ turn ∈ turns, strictShop.LogOpen turn.found := by decide +kernel
  have hapart : ∀ turn ∈ turns, turn.verdict = .delivered →
      strictShop.examPlace turn.job t ≠ strictShop.logPlace t := by
    decide +kernel
  have hverdicts : turns.map (·.verdict) = [.delivered, .failed] := by decide +kernel
  obtain ⟨tally, entries, htally, -, hlog, hall⟩ :=
    work_notesFailures strictShop oneAtATime t jobs jobs_ownFiles hopen hapart
  refine ⟨jobs_ownFiles, hopen, hapart, tally, entries, htally, hlog, hall.mpr ?_⟩
  intro turn hturn failure hverdict
  have hmem := List.mem_map_of_mem (f := (·.verdict)) hturn
  rw [hverdicts, hverdict] at hmem
  simp at hmem

/-- The files before, and a file where the folder of the exams is to be. -/
def blockedDesk : FileTree :=
  { desk "e" with entries := (["output_pdf"], .file "x".toUTF8) :: (desk "e").entries }

/-- **Jobs that fail without a word.**  Both exams are made, and neither can be written.  Both are
counted as failed, and there is no log. -/
theorem work_unnoted :
    let jobs := [copyJob "A" "d", copyJob "B" "e"]
    let r := Batch.work oneAtATime copyShop blockedDesk
    oneAtATime.jobs blockedDesk = .ok jobs ∧
      (∀ turn ∈ copyShop.turns jobs blockedDesk, copyShop.LogOpen turn.found) ∧
      r.1 = .ok { success := 0, failed := 2, total := 2 } ∧
      r.2.fileAt? (copyShop.logPlace blockedDesk) = none := by
  intro jobs r
  have hjobs : oneAtATime.jobs blockedDesk = .ok jobs :=
    jobs_twoFiles rfl rfl (by decide +kernel) (by decide +kernel)
  have hwork : r = _ := work_eq_turns hjobs
  rw [hwork]
  refine ⟨hjobs, ?_, ?_, ?_⟩ <;> decide +kernel

end Workshop

end ExamPress
