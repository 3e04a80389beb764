import ExamPress.Proofs.Files.Change
import ExamPress.Proofs.Files.Listing
import ExamPress.Proofs.Question.Picking
import ExamPress.Proofs.Text.ByteOrder
import ExamPress.Question.Lesson
import Mathlib.Data.List.Dedup
import Mathlib.Data.List.Sort

/-!
# Loading a bank

A folder that can be read always gives a bank, and what is in it comes from the good files of the
folder only: those that are named as TOML and in which everything can be read.  They are taken in
the order of the bytes of their names, so it does not matter how the folder lists them, and a file
with any fault in it is passed over as a whole.  What the bank holds can therefore be told from the
good files alone, and two folders with the same good files give the same bank, whatever else is in
them.

## What is here

* `GoodFile` — a good file and its questions; `goodFile_iff` says that loading finds them;
* `goodFiles` — the good files among names, in their order;
* `Bank.load_of_list` — the bank, by what is found in it;
* `AlikeButBad`, `AlikeButBad.goodFiles_eq` — folders that differ in bad entries only;
* `Bank.load_goodFiles` — the theorem.
-/

set_option autoImplicit false

namespace ExamPress

open ExamPress.Files
open ExamPress.Document (Node)

/-! ## Good files -/

/-- The questions that a lesson holds: their documents are those of the stored texts, and they go
under the name of the lesson, or of the unit where the lesson's name has no words. -/
def Lesson.Holds (lesson : Lesson) (questions : List Question) : Prop :=
  ∃ unit title, Node.ofJson lesson.unit = .ok unit ∧ Node.ofJson lesson.lesson = .ok title ∧
    List.Forall₂ (fun stored q => q.id = stored.id ∧ Node.ofJson stored.text = .ok q.document ∧
      q.sourceLabel = if title.plainText = "" then unit else title) lesson.questions questions

/-- **A good file of a folder**, and the questions in it. -/
structure GoodFile (t : FileTree) (folder name : String) (questions : List Question) : Prop where
  /-- Its extension is that of TOML. -/
  named : ∃ stem, stem ≠ "" ∧ name = stem ++ ".toml"
  /-- Its bytes are a text, the text is a lesson, and all documents in the lesson can be read. -/
  readable : ∃ text lesson, t.read (Path.join folder name) = .ok (String.toUTF8 text) ∧
    Lesson.ofToml? text = some lesson ∧ lesson.Holds questions

theorem Question.ofStored_eq_ok_iff {id : QuestionId} {text : String} {label : Node}
    {q : Question} : Question.ofStored id text label = .ok q ↔
      q.id = id ∧ Node.ofJson text = .ok q.document ∧ q.sourceLabel = label := by
  simp only [Question.ofStored, bind_eq_ok_iff, mapError_eq_ok_iff, Except.ok.injEq]
  constructor
  · rintro ⟨document, hdocument, rfl⟩
    exact ⟨rfl, hdocument, rfl⟩
  · rintro ⟨rfl, hdocument, rfl⟩
    exact ⟨q.document, hdocument, rfl⟩

theorem Lesson.questions?_eq_ok_iff {lesson : Lesson} {questions : List Question} :
    lesson.questions? = .ok questions ↔ lesson.Holds questions := by
  simp only [Lesson.questions?, Lesson.Holds, Lesson.sourceLabel, bind_eq_ok_iff,
    mapError_eq_ok_iff, mapM_eq_ok_iff, Question.ofStored_eq_ok_iff, exists_and_left]

theorem Files.FileTree.readText_eq_ok_iff {t : FileTree} {path text : String} :
    t.readText path = .ok text ↔ t.read path = .ok text.toUTF8 := by
  rw [FileTree.readText, bind_eq_ok_iff]
  constructor
  · rintro ⟨content, hread, htext⟩
    rw [String.fromUTF8?] at htext
    split at htext
    · next h =>
      split at h
      · cases h
        rw [hread, ← Except.ok.inj htext]
        rfl
      · cases h
    · cases htext
  · intro hread
    have hvalid : text.toUTF8.IsValidUTF8 := text.isValidUTF8
    refine ⟨_, hread, ?_⟩
    rw [String.fromUTF8?, dif_pos hvalid]
    rfl

theorem Toml.load_eq_ok_iff {α : Type} {reader : String → Option α} {t : FileTree} {path : String}
    {a : α} : Toml.load reader t path = .ok a ↔
      ∃ text, t.readText path = .ok text ∧ reader text = some a := by
  rw [Toml.load]
  cases t.readText path with
  | error fault => simp
  | ok text => cases h : reader text <;> simp [h]

theorem Files.Path.hasExtension_iff {extension name : String} :
    Path.hasExtension extension name = true ↔
      ∃ stem, stem ≠ "" ∧ name = stem ++ ("." ++ extension) := by
  rw [Path.hasExtension, Bool.and_eq_true, List.isSuffixOf_iff_suffix, decide_eq_true_iff]
  constructor
  · rintro ⟨⟨stem, hstem⟩, hlength⟩
    refine ⟨String.ofList stem, ?_, String.toList_inj.mp (by simp [← hstem])⟩
    rintro hempty
    rw [String.ofList_eq_empty_iff] at hempty
    simp [← hstem, hempty] at hlength
  · rintro ⟨stem, hstem, rfl⟩
    refine ⟨⟨stem.toList, by simp⟩, ?_⟩
    have hpos : 0 < stem.toList.length :=
      List.length_pos_iff.mpr (mt String.toList_eq_nil_iff.mp hstem)
    simpa using hpos

/-- The questions of a file, if it is a lesson and all its documents can be read. -/
def Lesson.questionsIn? (t : FileTree) (path : String) : Option (List Question) :=
  (Toml.load Lesson.ofToml? t path).toOption.bind fun lesson => lesson.questions?.toOption

theorem Lesson.questionsIn_eq_getD (t : FileTree) (path : String) :
    Lesson.questionsIn t path = (Lesson.questionsIn? t path).getD [] := by
  rw [Lesson.questionsIn, Lesson.questionsIn?]
  cases Toml.load Lesson.ofToml? t path with
  | error => rfl
  | ok lesson =>
    dsimp only [Except.toOption, Option.bind_some]
    cases lesson.questions? <;> rfl

/-- **A good file is one that loading takes questions from.** -/
theorem goodFile_iff {t : FileTree} {folder name : String} {questions : List Question} :
    GoodFile t folder name questions ↔ Path.hasExtension "toml" name = true ∧
      Lesson.questionsIn? t (Path.join folder name) = some questions := by
  rw [Path.hasExtension_iff, Lesson.questionsIn?, Option.bind_eq_some_iff]
  simp only [toOption_eq_some_iff, Toml.load_eq_ok_iff, FileTree.readText_eq_ok_iff,
    Lesson.questions?_eq_ok_iff]
  constructor
  · rintro ⟨hnamed, text, lesson, hread, hlesson, hholds⟩
    exact ⟨hnamed, lesson, ⟨text, hread, hlesson⟩, hholds⟩
  · rintro ⟨hnamed, lesson, ⟨text, hread, hlesson⟩, hholds⟩
    exact ⟨hnamed, text, lesson, hread, hlesson, hholds⟩

/-! ## The good files of a folder -/

/-- **The good files among names**, in the order of their names, each with its questions. -/
def goodFiles (t : FileTree) (folder : String) (names : List String) :
    List (String × List Question) :=
  (Toml.tomlNames names).dedup.filterMap fun name =>
    (Lesson.questionsIn? t (Path.join folder name)).map fun questions => (name, questions)

section Names

variable (t : FileTree) (folder : String) (names : List String)

theorem mem_goodFiles {name : String} {questions : List Question} :
    (name, questions) ∈ goodFiles t folder names ↔
      name ∈ names ∧ GoodFile t folder name questions := by
  simp only [goodFiles, Toml.tomlNames, List.mem_filterMap, List.mem_dedup, List.mem_mergeSort,
    List.mem_filter, Option.map_eq_some_iff, Prod.mk.injEq, goodFile_iff]
  constructor
  · rintro ⟨_, ⟨hmem, htoml⟩, _, hquestions, rfl, rfl⟩
    exact ⟨hmem, htoml, hquestions⟩
  · rintro ⟨hmem, htoml, hquestions⟩
    exact ⟨name, ⟨hmem, htoml⟩, questions, hquestions, rfl, rfl⟩

theorem pairwise_tomlNames : (Toml.tomlNames names).Pairwise fun a b => a ≤ b := by
  have htrans : ∀ a b c : String, decide (a ≤ b) = true → decide (b ≤ c) = true →
      decide (a ≤ c) = true := by
    simpa using fun a b c => String.le_trans (a := a) (b := b) (c := c)
  have htotal : ∀ a b : String, (decide (a ≤ b) || decide (b ≤ a)) = true := by
    simpa using String.le_total
  rw [Toml.tomlNames]
  simpa using List.pairwise_mergeSort htrans htotal (names.filter (Path.hasExtension "toml"))

/-- **The good files stand in the order of the bytes of their names.** -/
theorem pairwise_goodFiles :
    (goodFiles t folder names).Pairwise fun f g => Text.bytes f.1 < Text.bytes g.1 := by
  have hnames : (Toml.tomlNames names).dedup.Pairwise fun a b => a ≠ b ∧ a ≤ b :=
    (List.nodup_dedup _).and ((pairwise_tomlNames names).sublist (List.dedup_sublist _))
  refine List.Pairwise.filterMap _ (fun a b hab f hf g hg => ?_) hnames
  obtain ⟨_, -, rfl⟩ := Option.map_eq_some_iff.mp hf
  obtain ⟨_, -, rfl⟩ := Option.map_eq_some_iff.mp hg
  rw [← Text.lt_iff_bytes_lt]
  exact lt_of_le_of_ne hab.2 hab.1

end Names

/-- Files in the order of the bytes of their names are told by which they are. -/
theorem eq_of_pairwise_bytes {files files' : List (String × List Question)}
    (h : files.Pairwise fun f g => Text.bytes f.1 < Text.bytes g.1)
    (h' : files'.Pairwise fun f g => Text.bytes f.1 < Text.bytes g.1)
    (hmem : ∀ file, file ∈ files ↔ file ∈ files') : files = files' := by
  have : Std.Irrefl fun f g : String × List Question => Text.bytes f.1 < Text.bytes g.1 :=
    ⟨fun _ => List.lt_irrefl _⟩
  have : Std.Antisymm fun f g : String × List Question => Text.bytes f.1 < Text.bytes g.1 :=
    ⟨fun _ _ h h' => absurd (List.lt_trans h h') (List.lt_irrefl _)⟩
  exact h.eq_of_mem_iff h' fun file => hmem file

/-! ## What is found in the bank -/

namespace Bank

theorem lastWith_append (qs rs : List Question) (id : QuestionId) :
    lastWith (qs ++ rs) id = (lastWith rs id).or (lastWith qs id) := by
  rw [lastWith, List.reverse_append, List.find?_append]
  rfl

theorem lastWith_eq_none_iff {qs : List Question} {id : QuestionId} :
    lastWith qs id = none ↔ ∀ q ∈ qs, q.id ≠ id := by
  simp [lastWith]

/-- Only the last time that questions are put in together counts. -/
theorem lastWith_flatMap_dedup {α : Type} [DecidableEq α] (f : α → List Question) (as : List α) :
    lastWith (as.dedup.flatMap f) = lastWith (as.flatMap f) := by
  induction as with
  | nil => rfl
  | cons a as ih =>
    funext id
    rw [List.flatMap_cons, lastWith_append, ← ih]
    by_cases ha : a ∈ as
    · rw [List.dedup_cons_of_mem ha]
      cases hlast : lastWith (as.dedup.flatMap f) id with
      | some q => rfl
      | none =>
        rw [ih, lastWith_eq_none_iff] at hlast
        rw [Option.none_or, eq_comm, lastWith_eq_none_iff]
        exact fun q hq => hlast q (List.mem_flatMap.mpr ⟨a, ha, hq⟩)
    · rw [List.dedup_cons_of_notMem ha, List.flatMap_cons, lastWith_append]

/-- **A bank is what is found in it.** -/
theorem eq_of_find? {b c : Bank} (h : ∀ id, b.find? id = c.find? id) : b = c := by
  have hmem : ∀ (b : Bank) (q : Question), q ∈ b.questions ↔ b.find? q.id = some q := by
    intro b q
    constructor
    · intro hq
      have hone : q ∈ b.questions.filter (·.id = q.id) := by simp [hq]
      rwa [filter_eq_toList_find? b.ascending, Option.mem_toList] at hone
    · exact List.mem_of_find?_eq_some
  have : Std.Irrefl fun p q : Question => p.id < q.id := ⟨fun _ => Int64.lt_irrefl⟩
  have : Std.Antisymm fun p q : Question => p.id < q.id :=
    ⟨fun _ _ h h' => absurd (Int64.lt_trans h h') Int64.lt_irrefl⟩
  have hquestions := b.ascending.eq_of_mem_iff c.ascending fun q => by rw [hmem, hmem, h]
  cases b
  cases c
  cases hquestions
  rfl

/-- A folder that can be listed gives a bank, and it is that of the good files in it. -/
theorem load_of_list {t : FileTree} {folder : String} {names : List String}
    (h : t.list folder = .ok names) :
    ∃ bank, Bank.load t folder = .ok bank ∧
      ∀ id, bank.find? id = lastWith ((goodFiles t folder names).flatMap Prod.snd) id := by
  have hexists : t.pathExists folder = true := by
    obtain ⟨home, hhome, hfolder, -⟩ := FileTree.list_eq_ok_iff.mp h
    simp [FileTree.pathExists, FileTree.entryAt?, hhome, Except.toOption, hfolder]
  have hpaths : Toml.paths t folder = .ok ((Toml.tomlNames names).map (Path.join folder)) := by
    rw [Toml.paths, if_pos hexists, h]
  refine ⟨_, by rw [Bank.load, hpaths]; rfl, fun id => ?_⟩
  have hquestions : (goodFiles t folder names).flatMap Prod.snd =
      (Toml.tomlNames names).dedup.flatMap fun name =>
        Lesson.questionsIn t (Path.join folder name) := by
    rw [goodFiles, List.filterMap_eq_flatMap_toList, List.flatMap_assoc]
    refine List.flatMap_congr fun name _ => ?_
    rw [Lesson.questionsIn_eq_getD]
    cases Lesson.questionsIn? t (Path.join folder name) <;> simp
  rw [find?_insertAll_empty, hquestions, lastWith_flatMap_dedup, List.flatMap_map]

end Bank

/-! ## Folders that differ in bad entries -/

/-- Under a name there is no good file in a folder, and maybe nothing at all. -/
def BadEntry (t : FileTree) (folder name : String) : Prop :=
  ∀ questions, ¬GoodFile t folder name questions

/-- **Two trees in which a folder differs in bad entries only.**  In both the folder can be listed,
and what is not at or below an entry of the folder that is bad in both is the same. -/
structure AlikeButBad (t t' : FileTree) (folder : String) : Prop where
  workingFolder : t'.workingFolder = t.workingFolder
  listed : ∃ names, t.list folder = .ok names ∧ ∀ name ∈ names, '/' ∉ name.toList
  listed' : ∃ names, t'.list folder = .ok names ∧ ∀ name ∈ names, '/' ∉ name.toList
  alike : ∀ place, t'.at? place = t.at? place ∨
    ∃ name, t.destination folder ++ [name] <+: place ∧
      BadEntry t folder name ∧ BadEntry t' folder name

namespace AlikeButBad

variable {t t' : FileTree} {folder : String}

theorem symm (h : AlikeButBad t t' folder) : AlikeButBad t' t folder := by
  refine ⟨h.workingFolder.symm, h.listed', h.listed, fun place => (h.alike place).imp Eq.symm ?_⟩
  rintro ⟨name, hbelow, hbad, hbad'⟩
  rw [← FileTree.destination_congr h.workingFolder] at hbelow
  exact ⟨name, hbelow, hbad', hbad⟩

/-- A good file is there in the other tree as well. -/
theorem good {names names' : List String} {name : String} {questions : List Question}
    (h : AlikeButBad t t' folder) (hnames : t.list folder = .ok names)
    (hnames' : t'.list folder = .ok names') (hmem : name ∈ names)
    (hgood : GoodFile t folder name questions) :
    name ∈ names' ∧ GoodFile t' folder name questions := by
  obtain ⟨home, hhome, -, rfl⟩ := FileTree.list_eq_ok_iff.mp hnames
  obtain ⟨home', hhome', hfolder', rfl⟩ := FileTree.list_eq_ok_iff.mp hnames'
  obtain rfl := FileTree.eq_destination_of_resolve hhome
  have hhomes := FileTree.eq_destination_of_resolve hhome'
  rw [FileTree.destination_congr h.workingFolder] at hhomes
  subst hhomes
  have hsep : '/' ∉ name.toList := by
    obtain ⟨all, hall, hsep⟩ := h.listed
    rw [hnames] at hall
    cases hall
    exact hsep name hmem
  have hmove : (t.destination folder).move name = t.destination folder ++ [name] := by
    obtain ⟨stem, -, rfl⟩ := hgood.named
    have hlong : ∀ short : String, short.length ≤ 2 → stem ++ ".toml" ≠ short := by
      rintro _ hshort rfl
      have hend : ".toml".length = 5 := rfl
      rw [String.length_append, hend] at hshort
      omega
    exact Place.move_of_name (hlong _ (by decide)) (hlong _ (by decide)) (hlong _ (by decide)) _
  have hsame :
      t'.at? (t.destination folder ++ [name]) = t.at? (t.destination folder ++ [name]) := by
    refine (h.alike _).resolve_right ?_
    rintro ⟨other, hbelow, hbad, -⟩
    obtain rfl : other = name := by simpa using hbelow.eq_of_length (by simp)
    exact hbad questions hgood
  obtain ⟨text, lesson, hread, hlesson, hholds⟩ := hgood.readable
  refine ⟨?_, hgood.named, text, lesson, ?_, hlesson, hholds⟩
  · rw [FileTree.mem_namesAt_iff] at hmem ⊢
    rwa [hsame]
  · exact FileTree.read_join_congr hsep h.workingFolder hhome' hfolder' (by rw [hmove, hsame]) hread

/-- **Folders that differ in bad entries only have the same good files.** -/
theorem goodFiles_eq {names names' : List String} (h : AlikeButBad t t' folder)
    (hnames : t.list folder = .ok names) (hnames' : t'.list folder = .ok names') :
    goodFiles t' folder names' = goodFiles t folder names := by
  refine eq_of_pairwise_bytes (pairwise_goodFiles t' folder names')
    (pairwise_goodFiles t folder names) ?_
  rintro ⟨name, questions⟩
  rw [mem_goodFiles, mem_goodFiles]
  exact ⟨fun ⟨hmem, hgood⟩ => h.symm.good hnames' hnames hmem hgood,
    fun ⟨hmem, hgood⟩ => h.good hnames hnames' hmem hgood⟩

end AlikeButBad

/-- **Loading a bank.**  A folder that can be listed gives a bank.  Its good files, taken in the
order of the bytes of their names and each with its questions in their order, say what is in the
bank: under an id the last question that has it, and nothing under any other id.  Entries that are
not good count for nothing: where they are taken away, added or altered, and however the folder
lists what is in it, the bank is the same. -/
theorem Bank.load_goodFiles (t : FileTree) (folder : String) (names : List String)
    (h : t.list folder = .ok names) :
    ∃ (bank : Bank) (files : List (String × List Question)), Bank.load t folder = .ok bank ∧
      files.Pairwise (fun f g => Text.bytes f.1 < Text.bytes g.1) ∧
      (∀ name questions, (name, questions) ∈ files ↔
        name ∈ names ∧ GoodFile t folder name questions) ∧
      (∀ id, bank.find? id = lastWith (files.flatMap Prod.snd) id) ∧
      ∀ t', AlikeButBad t t' folder → Bank.load t' folder = .ok bank := by
  obtain ⟨bank, hload, hfind⟩ := Bank.load_of_list h
  refine ⟨bank, goodFiles t folder names, hload, pairwise_goodFiles t folder names,
    fun name questions => mem_goodFiles t folder names, hfind, fun t' halike => ?_⟩
  obtain ⟨names', hnames', -⟩ := halike.listed'
  obtain ⟨bank', hload', hfind'⟩ := Bank.load_of_list hnames'
  rw [hload']
  congr 1
  refine Bank.eq_of_find? fun id => ?_
  rw [hfind', hfind, halike.goodFiles_eq h hnames']

/-- A lesson with one question. -/
def oneQuestion : String :=
  "unit = '\x7b\"type\":\"doc\"\x7d'\nlesson = '\x7b\"type\":\"doc\"\x7d'\n" ++
    "[[questions]]\nid = 7\ntext = '\x7b\"type\":\"text\",\"text\":\"x\"\x7d'\n"

/-- A folder with a lesson, and with a file that breaks off. -/
def shelf : FileTree where
  entries :=
    [(["bank"], .folder), (["bank", "b.toml"], .file oneQuestion.toUTF8),
      (["bank", "a.toml"], .file "unit = ".toUTF8)]

/-- The question of the lesson. -/
def shelved : Question := { id := 7, document := .text "x", sourceLabel := .document [] }

/-- The folder without the broken file. -/
def tidyShelf : FileTree where
  entries := [(["bank", "b.toml"], .file oneQuestion.toUTF8), (["bank"], .folder)]

theorem questionsIn?_shelf :
    Lesson.questionsIn? shelf (Path.join "/bank" "b.toml") = some [shelved] ∧
      ∀ t ∈ [shelf, tidyShelf], Lesson.questionsIn? t (Path.join "/bank" "a.toml") = none := by
  decide +kernel

theorem alikeButBad_tidyShelf : AlikeButBad shelf tidyShelf "/bank" := by
  refine ⟨rfl, ⟨["b.toml", "a.toml"], by rfl, by decide⟩, ⟨["b.toml"], by rfl, by decide⟩, ?_⟩
  have hhome : shelf.destination "/bank" = ["bank"] := by decide
  intro place
  by_cases hbroken : place = ["bank", "a.toml"]
  · have hbad : ∀ t ∈ [shelf, tidyShelf], BadEntry t "/bank" "a.toml" := by
      intro t ht questions hgood
      rw [goodFile_iff, questionsIn?_shelf.2 t ht] at hgood
      exact absurd hgood.2 (by simp)
    exact .inr ⟨"a.toml", by simp [hhome, hbroken], hbad _ (by simp), hbad _ (by simp)⟩
  · left
    by_cases hfolder : place = ["bank"]
    · subst hfolder
      rfl
    by_cases hlesson : place = ["bank", "b.toml"]
    · subst hlesson
      rfl
    cases place with
    | nil => rfl
    | cons =>
      simp only [FileTree.at?, shelf, tidyShelf, List.lookup_cons, List.lookup_nil,
        beq_eq_false_iff_ne.mpr hbroken, beq_eq_false_iff_ne.mpr hfolder,
        beq_eq_false_iff_ne.mpr hlesson]

/-- The lesson is a good file, and it is the only one. -/
theorem goodFile_shelf_iff {file : String × List Question} :
    file.1 ∈ ["b.toml", "a.toml"] ∧ GoodFile shelf "/bank" file.1 file.2 ↔
      file ∈ [("b.toml", [shelved])] := by
  obtain ⟨name, questions⟩ := file
  obtain ⟨hgood, hbad⟩ := questionsIn?_shelf
  simp only [goodFile_iff, List.mem_cons, List.not_mem_nil, or_false, Prod.mk.injEq]
  constructor
  · rintro ⟨rfl | rfl, -, hquestions⟩
    · exact ⟨rfl, (Option.some.inj (hgood.symm.trans hquestions)).symm⟩
    · rw [hbad shelf (by simp)] at hquestions
      cases hquestions
  · rintro ⟨rfl, rfl⟩
    exact ⟨.inl rfl, by decide, hgood⟩

/-- The question of the lesson is all that is in the bank, and the broken file may be taken away. -/
theorem Bank.load_goodFiles_shelf :
    shelf.list "/bank" = .ok ["b.toml", "a.toml"] ∧ AlikeButBad shelf tidyShelf "/bank" ∧
      ∃ bank, Bank.load shelf "/bank" = .ok bank ∧ Bank.load tidyShelf "/bank" = .ok bank ∧
        bank.find? 7 = some shelved ∧ ∀ id, id ≠ 7 → bank.find? id = none := by
  have hlist : shelf.list "/bank" = .ok ["b.toml", "a.toml"] := by rfl
  obtain ⟨bank, files, hload, hpairwise, hfiles, hfind, hsame⟩ :=
    Bank.load_goodFiles shelf "/bank" _ hlist
  have hone : files = [("b.toml", [shelved])] :=
    eq_of_pairwise_bytes hpairwise (List.pairwise_singleton _ _) fun file =>
      (hfiles file.1 file.2).trans goodFile_shelf_iff
  subst hone
  refine ⟨hlist, alikeButBad_tidyShelf, bank, hload, hsame tidyShelf alikeButBad_tidyShelf,
    hfind 7, fun id hid => ?_⟩
  have hnot : shelved.id ≠ id := fun h => hid h.symm
  rw [hfind, lastWith]
  simp [hnot]

end ExamPress
