import ExamPress.Batch.FailureLog
import ExamPress.Proofs.Files.Change
import ExamPress.Proofs.Text.LineBytes
import ExamPress.Proofs.Text.Lines
import ExamPress.Proofs.Text.Occurrences
import ExamPress.Proofs.Text.Solid

/-!
# Reading the failure log back

The log is a plain text, and where one entry ends and the next begins is only told by its lines: an
entry is a line that does not begin with four blanks, and the lines behind it that do.  The reason
and what the program said are cut into lines before they are written, so they keep to this, whatever
they are.  A title is written as it is.  With the end of a line in it, it would be read as the
titles of two entries, and with four blanks before it as something that the program said.  It takes
three blanks to make a fourth of the one that is written after the title, if it is nothing else.

All other titles are read back, and so is the rest, from a log with any content that ends with its
last line.

## What is here

* `Notice` — what is written at one time, and `noteAll` that writes several;
* `Reading` and `readBack` — a reader of the log, from its bytes;
* `Notice.IsPlain` — notices with a title that can be read back;
* `FirstLine`, `Tells` — what should be read;
* `readBack_notices` — the lines of notices are read back;
* `noteAll_readBack` — the theorem.
-/

set_option autoImplicit false

namespace ExamPress.FailureLog

open Files
open Text (allBlank encode fileLines WholeLines)

/-! ## Writing -/

/-- **What is written into the log at one time.** -/
structure Notice where
  title : String
  reason : String
  diagnostics : Option String
  deriving DecidableEq

namespace Notice

/-- The entry of a notice. -/
def entry (n : Notice) : String := FailureLog.entry n.title n.reason n.diagnostics

/-- The lines of the entry. -/
def lines (n : Notice) : List (List Char) := headLine n.title n.reason :: detailLines n.diagnostics

theorem bytes_entry (n : Notice) :
    Text.bytes n.entry = encode (n.lines.flatMap fun line => line ++ ['\n']) :=
  Text.bytes_ofList _

end Notice

/-- **Several notices**, one after the other. -/
def noteAll (t : FileTree) (path : String) (notices : List Notice) : Except Failure FileTree :=
  notices.foldlM (fun t n => note t path n.title n.reason n.diagnostics) t

/-- The bytes of the log.  There are none if there is no log. -/
def content (t : FileTree) (path : String) : List UInt8 :=
  ((t.fileAt? (t.destination path)).getD ByteArray.empty).data.toList

variable {t t' : FileTree} {path : String}

/-- **The step**: a notice puts its entry at the end of the log. -/
theorem content_note {n : Notice} (h : note t path n.title n.reason n.diagnostics = .ok t') :
    content t' path = content t path ++ Text.bytes n.entry := by
  rw [note, mapError_eq_ok_iff] at h
  rw [content, FileTree.destination_congr (FileTree.workingFolder_append h),
    FileTree.fileAt?_append h, Option.getD_some, ByteArray.toList_data_append]
  rfl

/-- **The run**: notices put their entries at the end of the log, in their order. -/
theorem content_noteAll {notices : List Notice} (h : noteAll t path notices = .ok t') :
    content t' path = content t path ++ notices.flatMap fun n => Text.bytes n.entry := by
  induction notices generalizing t with
  | nil =>
    obtain rfl := Except.ok.inj h
    rw [List.flatMap_nil, List.append_nil]
  | cons n notices ih =>
    rw [noteAll, List.foldlM_cons, bind_eq_ok_iff] at h
    obtain ⟨next, hnote, hrest⟩ := h
    rw [ih hrest, content_note hnote, List.flatMap_cons, List.append_assoc]

/-! ## Reading -/

/-- What is written before a line of what the program said. -/
def indent : List Char := "    ".toList

/-- Does a line of the log go on with an entry? -/
def goesOn (line : List UInt8) : Bool := (encode indent).isPrefixOf line

/-- **An entry as it is read**: its first line, and those that go on with it. -/
structure Reading where
  head : List UInt8
  details : List (List UInt8)
  deriving DecidableEq

/-- **A reader of the log**: the lines before the first entry, which go on with none, and the
entries. -/
def readBack : List (List UInt8) → List (List UInt8) × List Reading
  | [] => ([], [])
  | line :: lines =>
    if goesOn line then (line :: (readBack lines).1, (readBack lines).2)
    else ([], ⟨line, (readBack lines).1⟩ :: (readBack lines).2)

/-- What is read as entries in front does not change with entries that come behind. -/
theorem readBack_append {before after : List (List UInt8)} (h : (readBack after).1 = []) :
    readBack (before ++ after) =
      ((readBack before).1, (readBack before).2 ++ (readBack after).2) := by
  induction before with
  | nil => exact Prod.ext h rfl
  | cons line before ih =>
    rw [List.cons_append, readBack, readBack, ih]
    split <;> rfl

/-- Lines that all go on with an entry. -/
theorem readBack_goesOn {lines : List (List UInt8)} (h : ∀ line ∈ lines, goesOn line = true) :
    readBack lines = (lines, []) := by
  induction lines with
  | nil => rfl
  | cons line lines ih =>
    rw [List.forall_mem_cons] at h
    rw [readBack, if_pos h.1, ih h.2]

/-- **The entries that are read begin with the lines that do not go on with one.** -/
theorem map_head_readBack (lines : List (List UInt8)) :
    (readBack lines).2.map (·.head) = lines.filter fun line => !goesOn line := by
  induction lines with
  | nil => rfl
  | cons line lines ih =>
    rw [readBack, List.filter_cons]
    cases goesOn line <;> simp [ih]

/-! ## What should be read -/

/-- A notice whose title can be read back: no line ends in it, and it does not begin the line with
four blanks. -/
def Notice.IsPlain (n : Notice) : Prop :=
  '\n' ∉ n.title.toList ∧ ¬indent <+: n.title.toList ++ " | ".toList

instance (n : Notice) : Decidable n.IsPlain := inferInstanceAs (Decidable (_ ∧ _))

/-- **The first line of a reason that is not blank**, without the blanks at its ends, or what stands
for a reason that says nothing. -/
inductive FirstLine (reason : String) : List Char → Prop
  | found {before after : List (List Char)} {line : List Char}
      (hlines : Text.lines reason.toList = before ++ line :: after)
      (hbefore : ∀ l ∈ before, allBlank l = true) (hline : allBlank line = false) :
      FirstLine reason (Text.trim line)
  | none (h : ∀ l ∈ Text.lines reason.toList, allBlank l = true) : FirstLine reason noReason

/-- **A reading tells of a notice**: its first line has the title as it is and the first line of the
reason, and behind it stand the lines of what the program said, each behind four blanks, unless that
is blank. -/
structure Tells (n : Notice) (r : Reading) : Prop where
  head : ∃ reason, FirstLine n.reason reason ∧
    r.head = encode (n.title.toList ++ " | ".toList ++ reason)
  silent : (∀ text ∈ n.diagnostics, allBlank text.toList = true) → r.details = []
  said : ∀ text ∈ n.diagnostics, allBlank text.toList = false →
    r.details = (Text.lines text.toList).map (fun line => encode (indent ++ line)) ∧
      r.details ≠ []

theorem firstLine_reasonLine (reason : String) : FirstLine reason (reasonLine reason) := by
  rw [reasonLine, List.find?_map]
  cases hfind : (Text.lines reason.toList).find? ((fun s => decide (s ≠ [])) ∘ Text.trim) with
  | none =>
    refine .none fun line hline => (Text.trim_eq_nil_iff line).mp ?_
    simpa using List.find?_eq_none.mp hfind line hline
  | some line =>
    obtain ⟨hline, before, after, hlines, hbefore⟩ := List.find?_eq_some_iff_append.mp hfind
    refine .found hlines (fun l hl => (Text.trim_eq_nil_iff l).mp ?_) ?_
    · simpa using hbefore l hl
    · rw [Bool.eq_false_iff, Ne, ← Text.trim_eq_nil_iff]
      simpa using hline

/-! ## Reading notices back -/

variable {n : Notice}

/-- The first line of a reason is one line. -/
theorem FirstLine.newline_not_mem {reason : String} {line : List Char}
    (h : FirstLine reason line) : '\n' ∉ line := by
  cases h with
  | found hlines _ _ =>
    have hline := (Text.mem_lines (hlines ▸ List.mem_append_right _ List.mem_cons_self)).2
    exact fun hmem => hline ((Text.infix_trim _).subset hmem)
  | none => decide

theorem detailLines_eq_nil {diagnostics : Option String}
    (h : ∀ text ∈ diagnostics, allBlank text.toList = true) : detailLines diagnostics = [] := by
  cases diagnostics with
  | none => rfl
  | some text => exact if_pos ((Text.trim_eq_nil_iff _).mpr (h text rfl))

theorem detailLines_some {text : String} (h : allBlank text.toList = false) :
    detailLines (some text) = (Text.lines text.toList).map (indent ++ ·) :=
  if_neg fun hnil => by simp [(Text.trim_eq_nil_iff _).mp hnil] at h

/-- The lines that tell what the program said stand behind four blanks, and no line ends in them. -/
theorem mem_detailLines {diagnostics : Option String} {line : List Char}
    (h : line ∈ detailLines diagnostics) : indent <+: line ∧ '\n' ∉ line := by
  cases diagnostics with
  | none => exact absurd h List.not_mem_nil
  | some text =>
    cases hblank : allBlank text.toList with
    | true =>
      rw [detailLines_eq_nil (by simpa using hblank)] at h
      exact absurd h List.not_mem_nil
    | false =>
      rw [detailLines_some hblank] at h
      obtain ⟨line, hline, rfl⟩ := List.mem_map.mp h
      have hindent : '\n' ∉ indent := by decide
      exact ⟨List.prefix_append _ _, fun hmem =>
        (List.mem_append.mp hmem).elim hindent (Text.mem_lines hline).2⟩

namespace Notice

variable {n : Notice} {notices : List Notice}

/-- What is read of a notice. -/
def reading (n : Notice) : Reading where
  head := encode (headLine n.title n.reason)
  details := (detailLines n.diagnostics).map encode

theorem tells_reading (n : Notice) : Tells n n.reading where
  head := ⟨_, firstLine_reasonLine n.reason, rfl⟩
  silent h := by rw [reading, detailLines_eq_nil h, List.map_nil]
  said text htext hsaid := by
    rw [reading, Option.mem_def.mp htext, detailLines_some hsaid, List.map_map]
    exact ⟨rfl, by simpa using Text.lines_ne_nil hsaid⟩

/-- No line ends in a line of a notice. -/
theorem newline_not_mem_lines (h : n.IsPlain) : ∀ line ∈ n.lines, '\n' ∉ line := by
  have hsep : '\n' ∉ " | ".toList := by decide
  rw [lines, List.forall_mem_cons]
  refine ⟨?_, fun line hline => (mem_detailLines hline).2⟩
  simp only [headLine, List.mem_append, not_or]
  exact ⟨⟨h.1, hsep⟩, (firstLine_reasonLine n.reason).newline_not_mem⟩

/-- The first line of a notice does not go on with an entry.  The bar behind the title cannot be
among the four blanks, so it does not matter what comes after it. -/
theorem goesOn_head (h : n.IsPlain) : goesOn (encode (headLine n.title n.reason)) = false := by
  have hbar : '|' ∉ indent := by decide
  have hsplit (rest : List Char) : n.title.toList ++ " | ".toList ++ rest =
      n.title.toList ++ [' '] ++ '|' :: ' ' :: rest := by
    simp
  rw [Bool.eq_false_iff, goesOn, Ne, List.isPrefixOf_iff_prefix]
  intro hprefix
  have htext := Text.prefix_of_encode (by decide) hprefix
  rw [headLine, hsplit, Text.prefix_append_cons_iff hbar] at htext
  refine h.2 ?_
  rwa [← List.append_nil (_ ++ _), hsplit, Text.prefix_append_cons_iff hbar]

/-- **A notice is read back.** -/
theorem readBack_lines (h : n.IsPlain) : readBack (n.lines.map encode) = ([], [n.reading]) := by
  have hdetails : ∀ line ∈ (detailLines n.diagnostics).map encode, goesOn line = true := by
    intro line hline
    obtain ⟨text, htext, rfl⟩ := List.mem_map.mp hline
    obtain ⟨rest, rfl⟩ := (mem_detailLines htext).1
    rw [goesOn, List.isPrefixOf_iff_prefix, Text.encode_append]
    exact List.prefix_append _ _
  rw [lines, List.map_cons, readBack, goesOn_head h, readBack_goesOn hdetails]
  rfl

/-- **Notices are read back**, each by itself. -/
theorem readBack_flatMap_lines (h : ∀ n ∈ notices, n.IsPlain) :
    readBack ((notices.flatMap lines).map encode) = ([], notices.map reading) := by
  induction notices with
  | nil => rfl
  | cons n notices ih =>
    rw [List.forall_mem_cons] at h
    have hrest := ih h.2
    rw [List.flatMap_cons, List.map_append, readBack_append (by rw [hrest]), hrest,
      readBack_lines h.1]
    rfl

/-- The lines of entries that are written one after the other. -/
theorem fileLines_entries (h : ∀ n ∈ notices, n.IsPlain) :
    fileLines (notices.flatMap fun n => Text.bytes n.entry) =
      (notices.flatMap lines).map encode := by
  have hbytes : (notices.flatMap fun n => Text.bytes n.entry) =
      encode ((notices.flatMap lines).flatMap fun line => line ++ ['\n']) := by
    simp only [bytes_entry, encode, List.flatMap_assoc]
  rw [hbytes, Text.fileLines_encode]
  intro line hline
  obtain ⟨n, hn, hline⟩ := List.mem_flatMap.mp hline
  exact newline_not_mem_lines (h n hn) line hline

end Notice

/-- **The log is read back.**  What several notices put at the end of the log are their entries, in
their order.  Let the log have had whole lines, and let the titles be plain.  Then the lines of the
entries are lines of the log, and those among them that do not go on with an entry are the first
lines of the entries, one for each notice.  A reader finds one entry for each notice, with its
title, its reason, and what the program said; and in the whole log it finds what it found before,
and these entries behind that. -/
theorem noteAll_readBack (t t' : FileTree) (path : String) (notices : List Notice)
    (hnotes : noteAll t path notices = .ok t') :
    let entries := notices.flatMap fun n => Text.bytes n.entry
    let before := readBack (fileLines (content t path))
    content t' path = content t path ++ entries ∧
      (WholeLines (content t path) → (∀ n ∈ notices, n.IsPlain) →
        ∃ readings, List.Forall₂ Tells notices readings ∧
          fileLines (content t' path) = fileLines (content t path) ++ fileLines entries ∧
          (fileLines entries).filter (fun line => !goesOn line) = readings.map (·.head) ∧
          readBack (fileLines entries) = ([], readings) ∧
          readBack (fileLines (content t' path)) = (before.1, before.2 ++ readings)) := by
  intro entries before
  have hcontent : content t' path = content t path ++ entries := content_noteAll hnotes
  refine ⟨hcontent, fun hwhole hplain => ?_⟩
  have hlines : fileLines (content t' path) = fileLines (content t path) ++ fileLines entries := by
    rw [hcontent, Text.fileLines_append hwhole]
  have hread : readBack (fileLines entries) = ([], notices.map Notice.reading) := by
    rw [Notice.fileLines_entries hplain, Notice.readBack_flatMap_lines hplain]
  refine ⟨notices.map Notice.reading, ?_, hlines, ?_, hread, ?_⟩
  · rw [List.forall₂_map_right_iff, List.forall₂_same]
    exact fun n _ => n.tells_reading
  · rw [← map_head_readBack, hread]
  · rw [hlines, readBack_append (by rw [hread]), hread]

/-- A log with one entry. -/
def oldLog : FileTree where
  entries := [(["log"], .file "A | old\n".toUTF8)]

/-- Two notices, one with something that the program said. -/
def newNotices : List Notice :=
  [⟨"B", "\n  first \nsecond", none⟩, ⟨" C", "", some "! Missing $\r\n\nl.7"⟩]

/-- Two entries behind an old one. -/
theorem noteAll_readBack_newNotices :
    ∃ t', noteAll oldLog "log" newNotices = .ok t' ∧ WholeLines (content oldLog "log") ∧
      (∀ n ∈ newNotices, n.IsPlain) ∧
      ∃ old readings, List.Forall₂ Tells newNotices readings ∧
        readBack (fileLines (content t' "log")) = ([], old :: readings) := by
  have hopen : (noteAll oldLog "log" newNotices).toOption.isSome = true := by decide +kernel
  obtain ⟨t', hnotes⟩ := Option.isSome_iff_exists.mp hopen
  rw [toOption_eq_some_iff] at hnotes
  have hwhole : WholeLines (content oldLog "log") := by decide +kernel
  have hplain : ∀ n ∈ newNotices, n.IsPlain := by decide
  have hold : readBack (fileLines (content oldLog "log")) =
      ([], [⟨Text.bytes "A | old", []⟩]) := by decide +kernel
  obtain ⟨readings, htells, -, -, -, hread⟩ :=
    (noteAll_readBack oldLog t' "log" newNotices hnotes).2 hwhole hplain
  rw [hold] at hread
  exact ⟨t', hnotes, hwhole, hplain, _, readings, htells, hread⟩

/-- What is read in a new log after one notice with a title. -/
def readTitle (title : String) : Option (List (List UInt8) × List Reading) :=
  (noteAll { entries := [] } "log" [⟨title, "r", none⟩]).toOption.map fun t =>
    readBack (fileLines (content t "log"))

/-- **Titles that are not read back.**  The first one is read as two entries, and the others as
lines that go on with none. -/
theorem noteAll_readBack_titles :
    readTitle "A\nB" = some ([], [⟨Text.bytes "A", []⟩, ⟨Text.bytes "B | r", []⟩]) ∧
      readTitle "    A" = some ([Text.bytes "    A | r"], []) ∧
      readTitle "   " = some ([Text.bytes "    | r"], []) := by
  decide +kernel

end ExamPress.FailureLog
