import ExamPress.Proofs.Press.Scratch
import ExamPress.Proofs.Press.Stages

/-!
# The first stage that fails is the one that is told

Seven things have to go well for an exam: the template is filled, a scratch folder is made, the
source is written into it, the program starts, it ends in time, it ends with the code zero, and the
PDF can be read.  Each of them can fail on its own, and nothing keeps a later one from being
possible all the same: a program that ends with another code may have left a PDF.  What is told is
the first that fails, and what comes after it is not tried.

The ways in which it can go are written down as a relation, one case for each stage that can be
the first to fail and one for the exam.  A case asks for the success of all stages before its own.
That the relation holds of the course alone makes each case an equivalence.

## What is here

* `Assembler.Typesets`, `Assembler.Makes` — the ways in which it can go, with what is done;
* `typesets_iff`, `makes_iff` — it goes in just these ways, and in one of them;
* `Assembler.assemble_firstFault` — the theorem.
-/

set_option autoImplicit false

namespace ExamPress.Press

open ExamPress.Files

namespace Assembler

variable (a : Assembler)

/-! ## Typesetting -/

/-- What is done where the program is asked to start. -/
def started (s : Scratch) (source : String) (written : FileTree) : List Deed :=
  [.writeSource s source, .start (a.compiler.request s written)]

/-- The run of the program in a scratch folder. -/
def runIn (s : Scratch) (written : FileTree) : Run := a.program (a.compiler.request s written)

/-- Has the program got an end that is told by no exit code? -/
def EndsWithoutCode (r : Run) : Prop :=
  r.ending = .killed ∨ r.ending = .overdue ∧ a.compiler.timeout = none

/-- **The ways in which typesetting can go**, each with what is done. -/
inductive Typesets (s : Scratch) (t : FileTree) (source : String) :
    Except AssemblyFault ByteArray → List Deed → Prop
  /-- The source cannot be written. -/
  | unwritten {cause : Fault} (hwrite : s.writeSource t source = .error cause) :
    Typesets s t source (.error (.source cause)) []
  /-- The program cannot be started. -/
  | unavailable {written : FileTree} (hwrite : s.writeSource t source = .ok written)
    (hending : (a.runIn s written).ending = .notStarted) :
    Typesets s t source (.error .unavailable) (a.started s source written)
  /-- The program does not end within the limit. -/
  | overdue {written : FileTree} {limit : Duration}
    (hwrite : s.writeSource t source = .ok written)
    (hending : (a.runIn s written).ending = .overdue)
    (hlimit : a.compiler.timeout = some limit) :
    Typesets s t source (.error (.overdue limit)) (a.started s source written)
  /-- The program ends with a code that is not zero, whatever it left. -/
  | refused {written : FileTree} {code : Int} (hwrite : s.writeSource t source = .ok written)
    (hending : (a.runIn s written).ending = .exited code) (hcode : code ≠ 0) :
    Typesets s t source
      (.error (.compilation code (Text.decodeLossy (a.runIn s written).stderr)))
      (a.started s source written)
  /-- The program ends without a code, whatever it left. -/
  | disconnected {written : FileTree} (hwrite : s.writeSource t source = .ok written)
    (hending : a.EndsWithoutCode (a.runIn s written)) :
    Typesets s t source (.error (.disconnected (Text.decodeLossy (a.runIn s written).stderr)))
      (a.started s source written)
  /-- The program ends with the code zero, but there is no PDF to be read. -/
  | unread {written : FileTree} {cause : Fault} (hwrite : s.writeSource t source = .ok written)
    (hending : (a.runIn s written).ending = .exited 0)
    (hpdf : (a.runIn s written).contents.lookup [a.compiler.artifactName] = none ∧
        cause = .notFound ∨
      (a.runIn s written).contents.lookup [a.compiler.artifactName] = some .folder ∧
        cause = .isAFolder) :
    Typesets s t source (.error (.artifact (s.pathOf a.compiler.artifactName) cause))
      (a.started s source written)
  /-- The program ends with the code zero and leaves a PDF. -/
  | printed {written : FileTree} {pdf : ByteArray}
    (hwrite : s.writeSource t source = .ok written)
    (hending : (a.runIn s written).ending = .exited 0)
    (hpdf : (a.runIn s written).contents.lookup [a.compiler.artifactName] = some (.file pdf)) :
    Typesets s t source (.ok pdf) (a.started s source written)

/-- What is collected from a folder with the contents that a run left. -/
theorem collect_graft {s : Scratch} {t : FileTree} {contents : List (Place × Entry)}
    {o : Outcome} (hcode : o.exitCode = some 0) :
    a.collect s (t.graft s.place contents) o =
      match contents.lookup [a.compiler.artifactName] with
      | some (.file pdf) => .ok pdf
      | some .folder => .error (.artifact (s.pathOf a.compiler.artifactName) .isAFolder)
      | none => .error (.artifact (s.pathOf a.compiler.artifactName) .notFound) := by
  rw [collect, hcode]
  simp only [FileTree.contentAt, t.at?_graft s.place contents (List.cons_ne_nil _ _)]
  cases contents.lookup [a.compiler.artifactName] with
  | none => rfl
  | some entry => cases entry <;> rfl

variable {a} {s : Scratch} {t : FileTree} {source : String}

/-- The end of a typesetting whose source was written, by the outcome of the run. -/
theorem typeset_of_written {written : FileTree} (hwrite : s.writeSource t source = .ok written) :
    (a.typeset s t source).deeds = a.started s source written ∧
      (a.typeset s t source).result =
        match a.compiler.outcome (a.runIn s written) with
        | .error .unavailable => .error .unavailable
        | .error (.overdue limit) => .error (.overdue limit)
        | .ok o => a.collect s (written.graft s.place (a.runIn s written).contents) o := by
  rw [typeset, hwrite]
  simp only [Compiler.run, runIn]
  rcases a.compiler.outcome (a.program (a.compiler.request s written)) with (_ | _) | _ <;>
    exact ⟨rfl, rfl⟩

/-- Typesetting goes in one of the ways. -/
theorem typesets_typeset (a : Assembler) (s : Scratch) (t : FileTree) (source : String) :
    a.Typesets s t source (a.typeset s t source).result (a.typeset s t source).deeds := by
  cases hwrite : s.writeSource t source with
  | error cause =>
    rw [typeset, hwrite]
    exact .unwritten hwrite
  | ok written =>
    obtain ⟨hdeeds, hresult⟩ := typeset_of_written (a := a) hwrite
    rw [hdeeds, hresult, Compiler.outcome]
    cases hending : (a.runIn s written).ending with
    | notStarted => exact .unavailable hwrite hending
    | killed => exact .disconnected hwrite (.inl hending)
    | overdue =>
      cases hlimit : a.compiler.timeout with
      | none => exact .disconnected hwrite (.inr ⟨hending, hlimit⟩)
      | some limit => exact .overdue hwrite hending hlimit
    | exited code =>
      by_cases hcode : code = 0
      · subst hcode
        simp only [a.collect_graft (o := ⟨some 0, _⟩) rfl]
        cases hpdf : (a.runIn s written).contents.lookup [a.compiler.artifactName] with
        | none => exact .unread hwrite hending (.inl ⟨hpdf, rfl⟩)
        | some entry =>
          cases entry with
          | file pdf => exact .printed hwrite hending hpdf
          | folder => exact .unread hwrite hending (.inr ⟨hpdf, rfl⟩)
      · have hrefused := Typesets.refused hwrite hending hcode
        simpa [collect, hcode] using hrefused

/-- What a way says is what comes of it. -/
theorem Typesets.eq_typeset {r : Except AssemblyFault ByteArray} {deeds : List Deed}
    (h : a.Typesets s t source r deeds) :
    (a.typeset s t source).result = r ∧ (a.typeset s t source).deeds = deeds := by
  cases h with
  | unwritten hwrite =>
    rw [typeset, hwrite]
    exact ⟨rfl, rfl⟩
  | unavailable hwrite hending =>
    obtain ⟨hdeeds, hresult⟩ := typeset_of_written (a := a) hwrite
    exact ⟨by simp [hresult, Compiler.outcome, hending], hdeeds⟩
  | overdue hwrite hending hlimit =>
    obtain ⟨hdeeds, hresult⟩ := typeset_of_written (a := a) hwrite
    exact ⟨by simp [hresult, Compiler.outcome, hending, hlimit], hdeeds⟩
  | refused hwrite hending hcode =>
    obtain ⟨hdeeds, hresult⟩ := typeset_of_written (a := a) hwrite
    exact ⟨by simp [hresult, Compiler.outcome, hending, collect], hdeeds⟩
  | disconnected hwrite hending =>
    obtain ⟨hdeeds, hresult⟩ := typeset_of_written (a := a) hwrite
    refine ⟨?_, hdeeds⟩
    rcases hending with hending | ⟨hending, hlimit⟩
    · simp [hresult, Compiler.outcome, hending, collect]
    · simp [hresult, Compiler.outcome, hending, hlimit, collect]
  | unread hwrite hending hpdf =>
    obtain ⟨hdeeds, hresult⟩ := typeset_of_written (a := a) hwrite
    refine ⟨?_, hdeeds⟩
    simp only [hresult, Compiler.outcome, hending, a.collect_graft (o := ⟨some 0, _⟩) rfl]
    rcases hpdf with ⟨hpdf, rfl⟩ | ⟨hpdf, rfl⟩ <;> rw [hpdf]
  | printed hwrite hending hpdf =>
    obtain ⟨hdeeds, hresult⟩ := typeset_of_written (a := a) hwrite
    refine ⟨?_, hdeeds⟩
    simp only [hresult, Compiler.outcome, hending, a.collect_graft (o := ⟨some 0, _⟩) rfl, hpdf]

/-- **Typesetting goes in one of the ways**, and in no other. -/
theorem typesets_iff {r : Except AssemblyFault ByteArray} {deeds : List Deed} :
    a.Typesets s t source r deeds ↔
      (a.typeset s t source).result = r ∧ (a.typeset s t source).deeds = deeds := by
  refine ⟨Typesets.eq_typeset, ?_⟩
  rintro ⟨rfl, rfl⟩
  exact a.typesets_typeset s t source

/-! ## Making an exam -/

/-- **The ways in which the making of an exam can go**, each with what is done. -/
inductive Makes (a : Assembler) (t : FileTree) (title : String) (questions : List Question) :
    Except AssemblyFault CompiledExam → List Deed → Prop
  /-- The template cannot be filled. -/
  | unfilled {fault : Template.Fault} (hsource : a.source title questions = .error fault) :
    Makes a t title questions (.error (.template fault)) []
  /-- A scratch folder cannot be made. -/
  | homeless {source : String} {cause : Fault} (hsource : a.source title questions = .ok source)
    (hmade : Scratch.create t a.scratchRoot = .error cause) :
    Makes a t title questions (.error (.scratch cause)) []
  /-- Typesetting fails; the folder is removed. -/
  | failed {source : String} {s : Scratch} {made : FileTree} {fault : AssemblyFault}
    {deeds : List Deed} (hsource : a.source title questions = .ok source)
    (hmade : Scratch.create t a.scratchRoot = .ok (s, made))
    (hinside : a.Typesets s made source (.error fault) deeds) :
    Makes a t title questions (.error fault) (.makeFolder s :: deeds ++ [.removeFolder s])
  /-- Typesetting makes a PDF; the folder is removed. -/
  | made {source : String} {s : Scratch} {made : FileTree} {pdf : ByteArray} {deeds : List Deed}
    (hsource : a.source title questions = .ok source)
    (hmade : Scratch.create t a.scratchRoot = .ok (s, made))
    (hinside : a.Typesets s made source (.ok pdf) deeds) :
    Makes a t title questions (.ok ⟨pdf, questions.length⟩)
      (.makeFolder s :: deeds ++ [.removeFolder s])

variable {title : String} {questions : List Question}

/-- **Making an exam goes in one of the ways**, and in no other. -/
theorem makes_iff {r : Except AssemblyFault CompiledExam} {deeds : List Deed} :
    a.Makes t title questions r deeds ↔
      (a.course t title questions).result = r ∧ (a.course t title questions).deeds = deeds := by
  constructor
  · intro h
    cases h with
    | unfilled hsource =>
      rw [course, hsource]
      exact ⟨rfl, rfl⟩
    | homeless hsource hmade =>
      rw [course, hsource, hmade]
      exact ⟨rfl, rfl⟩
    | failed hsource hmade hinside | made hsource hmade hinside =>
      obtain ⟨hresult, hdeeds⟩ := typesets_iff.mp hinside
      rw [course, hsource, hmade]
      dsimp only
      rw [hresult, hdeeds]
      exact ⟨rfl, rfl⟩
  · rintro ⟨rfl, rfl⟩
    rw [course]
    cases hsource : a.source title questions with
    | error fault => exact .unfilled hsource
    | ok source =>
      cases hmade : Scratch.create t a.scratchRoot with
      | error cause => exact .homeless hsource hmade
      | ok made =>
        have hinside := a.typesets_typeset made.1 made.2 source
        dsimp only
        cases hresult : (a.typeset made.1 made.2 source).result with
        | error fault => exact .failed hsource hmade (hresult ▸ hinside)
        | ok pdf => exact .made hsource hmade (hresult ▸ hinside)

/-! ## The first that fails -/

end Assembler

/-- The steps that an exam takes. -/
inductive Step
  | fill
  | makeFolder
  | writeSource
  | start
  | endInTime
  | endWell
  | readPdf
  deriving DecidableEq

namespace Step

/-- The steps in order. -/
def all : List Step := [fill, makeFolder, writeSource, start, endInTime, endWell, readPdf]

/-- The first step that does not pass a test. -/
def IsFirstNot (passes : Step → Prop) (step : Step) : Prop :=
  ∃ before after, all = before ++ step :: after ∧ (∀ s ∈ before, passes s) ∧ ¬passes step

theorem isFirstNot_iff {passes : Step → Prop} {step : Step} :
    step.IsFirstNot passes ↔
      (∀ s ∈ all.takeWhile (· ≠ step), passes s) ∧ ¬passes step := by
  constructor
  · rintro ⟨before, after, hall, hbefore, hstep⟩
    have hnodup : (before ++ step :: after).Nodup := hall ▸ by decide
    have hne : ∀ s ∈ before, s ≠ step := fun s hs heq =>
      (List.nodup_append.mp hnodup).2.2 s hs step List.mem_cons_self heq
    have htake : all.takeWhile (· ≠ step) = before := by
      rw [hall, List.takeWhile_append_of_pos fun s hs => by simpa using hne s hs]
      simp
    exact ⟨htake ▸ hbefore, hstep⟩
  · rintro ⟨hbefore, hstep⟩
    refine ⟨all.takeWhile (· ≠ step), (all.dropWhile (· ≠ step)).tail, ?_, hbefore, hstep⟩
    cases step <;> rfl

/-- There is one first step that does not pass. -/
theorem IsFirstNot.unique {passes : Step → Prop} {step step' : Step}
    (h : step.IsFirstNot passes) (h' : step'.IsFirstNot passes) : step = step' := by
  obtain ⟨before, after, hall, hbefore, hstep⟩ := h
  obtain ⟨before', after', hall', hbefore', hstep'⟩ := h'
  rcases List.append_eq_append_iff.mp (hall.symm.trans hall') with ⟨more, rfl, hmore⟩ |
    ⟨more, rfl, hmore⟩
  · cases more with
    | nil => exact (List.cons.inj hmore).1
    | cons s more =>
      obtain ⟨rfl, -⟩ := List.cons.inj hmore
      exact absurd (hbefore' step (by simp)) hstep
  · cases more with
    | nil => exact (List.cons.inj hmore).1.symm
    | cons s more =>
      obtain ⟨rfl, -⟩ := List.cons.inj hmore
      exact absurd (hbefore step' (by simp)) hstep'

end Step

/-- The step at which a fault arises. -/
def AssemblyFault.step : AssemblyFault → Step
  | template _ => .fill
  | scratch _ => .makeFolder
  | source _ => .writeSource
  | unavailable => .start
  | overdue _ => .endInTime
  | compilation _ _ | disconnected _ => .endWell
  | artifact _ _ => .readPdf

namespace Assembler

variable (a : Assembler) (t : FileTree) (title : String) (questions : List Question)

/-- The source of an exam stands in a scratch folder. -/
def Supplied (source : String) (s : Scratch) (written : FileTree) : Prop :=
  ∃ made, a.source title questions = .ok source ∧
    Scratch.create t a.scratchRoot = .ok (s, made) ∧ s.writeSource made source = .ok written

/-- **When a step passes**, by itself: nothing is asked of the steps before it but what they hand
on. -/
def Passes : Step → Prop
  | .fill => ∃ source, a.source title questions = .ok source
  | .makeFolder => ∃ made, Scratch.create t a.scratchRoot = .ok made
  | .writeSource => ∀ source s made, a.source title questions = .ok source →
      Scratch.create t a.scratchRoot = .ok (s, made) →
        ∃ written, s.writeSource made source = .ok written
  | .start => ∀ source s written, a.Supplied t title questions source s written →
      (a.runIn s written).ending ≠ .notStarted
  | .endInTime => ∀ source s written, a.Supplied t title questions source s written →
      (a.runIn s written).ending = .overdue → a.compiler.timeout = none
  | .endWell => ∀ source s written, a.Supplied t title questions source s written →
      (a.runIn s written).ending = .exited 0
  | .readPdf => ∀ source s written, a.Supplied t title questions source s written →
      ∃ pdf, (a.runIn s written).contents.lookup [a.compiler.artifactName] = some (.file pdf)

variable {a t title questions} {s : Scratch} {source : String} {written : FileTree}

namespace Supplied

/-- There is one source in one folder, so what is said of all is said of this one. -/
theorem forall_iff (h : a.Supplied t title questions source s written)
    {P : Scratch → FileTree → Prop} :
    (∀ source s written, a.Supplied t title questions source s written → P s written) ↔
      P s written := by
  refine ⟨fun hall => hall source s written h, fun hP source' s' written' h' => ?_⟩
  obtain ⟨made, hsource, hmade, hwrite⟩ := h
  obtain ⟨made', hsource', hmade', hwrite'⟩ := h'
  obtain rfl := Except.ok.inj (hsource.symm.trans hsource')
  obtain ⟨rfl, rfl⟩ := Prod.mk.inj (Except.ok.inj (hmade.symm.trans hmade'))
  obtain rfl := Except.ok.inj (hwrite.symm.trans hwrite')
  exact hP

variable (h : a.Supplied t title questions source s written)
include h

/-- Where the source stands in a folder, the steps up to there have passed. -/
theorem passes {step : Step} (hstep : step ∈ [Step.fill, .makeFolder, .writeSource]) :
    a.Passes t title questions step := by
  obtain ⟨made, hsource, hmade, hwrite⟩ := h
  simp only [List.mem_cons, List.not_mem_nil, or_false] at hstep
  rcases hstep with rfl | rfl | rfl
  · exact ⟨source, hsource⟩
  · exact ⟨_, hmade⟩
  · intro source' s' made' hsource' hmade'
    obtain rfl := Except.ok.inj (hsource.symm.trans hsource')
    obtain ⟨rfl, rfl⟩ := Prod.mk.inj (Except.ok.inj (hmade.symm.trans hmade'))
    exact ⟨written, hwrite⟩

theorem passes_start :
    a.Passes t title questions .start ↔ (a.runIn s written).ending ≠ .notStarted :=
  h.forall_iff

theorem passes_endInTime :
    a.Passes t title questions .endInTime ↔
      ((a.runIn s written).ending = .overdue → a.compiler.timeout = none) :=
  h.forall_iff (P := fun s written => (a.runIn s written).ending = .overdue → _)

theorem passes_endWell :
    a.Passes t title questions .endWell ↔ (a.runIn s written).ending = .exited 0 :=
  h.forall_iff

theorem passes_readPdf :
    a.Passes t title questions .readPdf ↔
      ∃ pdf, (a.runIn s written).contents.lookup [a.compiler.artifactName] = some (.file pdf) :=
  h.forall_iff (P := fun s written => ∃ _, (a.runIn s written).contents.lookup _ = _)

end Supplied

/-- **A fault of typesetting is that of the first step that fails.** -/
theorem Typesets.isFirstNot {made : FileTree} {fault : AssemblyFault} {deeds : List Deed}
    (hsource : a.source title questions = .ok source)
    (hmade : Scratch.create t a.scratchRoot = .ok (s, made))
    (h : a.Typesets s made source (.error fault) deeds) :
    fault.step.IsFirstNot (a.Passes t title questions) := by
  -- once the source stands in the folder, each later step is a question about the one run
  have hsupplied {written : FileTree} (hwrite : s.writeSource made source = .ok written) :
      a.Supplied t title questions source s written := ⟨made, hsource, hmade, hwrite⟩
  rw [Step.isFirstNot_iff]
  cases h with
  | unwritten hwrite =>
    have hfill : a.Passes t title questions .fill := ⟨source, hsource⟩
    have hfolder : a.Passes t title questions .makeFolder := ⟨_, hmade⟩
    refine ⟨by simp [AssemblyFault.step, Step.all, hfill, hfolder], fun hpass => ?_⟩
    obtain ⟨written, hok⟩ := hpass source s made hsource hmade
    exact absurd (hwrite.symm.trans hok) nofun
  | unavailable hwrite hending =>
    have h := hsupplied hwrite
    simp [AssemblyFault.step, Step.all, h.passes, h.passes_start, hending]
  | overdue hwrite hending hlimit =>
    have h := hsupplied hwrite
    simp [AssemblyFault.step, Step.all, h.passes, h.passes_start, h.passes_endInTime, hending,
      hlimit]
  | refused hwrite hending hcode =>
    have h := hsupplied hwrite
    simp [AssemblyFault.step, Step.all, h.passes, h.passes_start, h.passes_endInTime,
      h.passes_endWell, hending, hcode]
  | disconnected hwrite hending =>
    have h := hsupplied hwrite
    rcases hending with hending | ⟨hending, hlimit⟩
    · simp [AssemblyFault.step, Step.all, h.passes, h.passes_start, h.passes_endInTime,
        h.passes_endWell, hending]
    · simp [AssemblyFault.step, Step.all, h.passes, h.passes_start, h.passes_endInTime,
        h.passes_endWell, hending, hlimit]
  | unread hwrite hending hpdf =>
    have h := hsupplied hwrite
    have hnone : ¬a.Passes t title questions .readPdf := by
      rw [h.passes_readPdf]
      rintro ⟨pdf, hfile⟩
      rcases hpdf with ⟨hpdf, -⟩ | ⟨hpdf, -⟩ <;> rw [hpdf] at hfile <;> cases hfile
    simp [AssemblyFault.step, Step.all, h.passes, h.passes_start, h.passes_endInTime,
      h.passes_endWell, hending, hnone]

/-- **A fault is that of the first step that fails.** -/
theorem Makes.isFirstNot {fault : AssemblyFault} {deeds : List Deed}
    (h : a.Makes t title questions (.error fault) deeds) :
    fault.step.IsFirstNot (a.Passes t title questions) := by
  cases h with
  | unfilled hsource =>
    refine Step.isFirstNot_iff.mpr ⟨by simp [AssemblyFault.step, Step.all], ?_⟩
    rintro ⟨source, hok⟩
    exact absurd (hsource.symm.trans hok) nofun
  | homeless hsource hmade =>
    have hfill : a.Passes t title questions .fill := ⟨_, hsource⟩
    refine Step.isFirstNot_iff.mpr ⟨by simp [AssemblyFault.step, Step.all, hfill], ?_⟩
    rintro ⟨made, hok⟩
    exact absurd (hmade.symm.trans hok) nofun
  | failed hsource hmade hinside => exact hinside.isFirstNot hsource hmade

/-- **An exam is made of what every step has handed on.** -/
theorem makes_ok_iff {exam : CompiledExam} :
    (∃ deeds, a.Makes t title questions (.ok exam) deeds) ↔
      ∃ source s written, a.Supplied t title questions source s written ∧
        (a.runIn s written).ending = .exited 0 ∧
        (a.runIn s written).contents.lookup [a.compiler.artifactName] = some (.file exam.pdf) ∧
        exam.questionCount = questions.length := by
  constructor
  · rintro ⟨deeds, h⟩
    cases h with
    | made hsource hmade hinside =>
      cases hinside with
      | printed hwrite hending hpdf =>
        exact ⟨_, _, _, ⟨_, hsource, hmade, hwrite⟩, hending, hpdf, rfl⟩
  · rintro ⟨source, s, written, ⟨made, hsource, hmade, hwrite⟩, hending, hpdf, hcount⟩
    obtain ⟨pdf, questionCount⟩ := exam
    obtain rfl := hcount
    exact ⟨_, .made hsource hmade (.printed hwrite hending hpdf)⟩

/-- An exam is made when every step passes, and then only. -/
theorem exists_result_ok_iff :
    (∃ exam, (a.course t title questions).result = .ok exam) ↔
      ∀ step, a.Passes t title questions step := by
  constructor
  · rintro ⟨exam, hexam⟩
    obtain ⟨source, s, written, h, hending, hpdf, -⟩ :=
      makes_ok_iff.mp ⟨_, makes_iff.mpr ⟨hexam, rfl⟩⟩
    rintro (_ | _ | _ | _ | _ | _ | _)
    · exact h.passes (by decide)
    · exact h.passes (by decide)
    · exact h.passes (by decide)
    · exact h.passes_start.mpr (by simp [hending])
    · exact h.passes_endInTime.mpr (by simp [hending])
    · exact h.passes_endWell.mpr hending
    · exact h.passes_readPdf.mpr ⟨_, hpdf⟩
  · intro hall
    cases hresult : (a.course t title questions).result with
    | ok exam => exact ⟨exam, rfl⟩
    | error fault =>
      obtain ⟨before, after, -, -, hnot⟩ := (makes_iff.mpr ⟨hresult, rfl⟩).isFirstNot
      exact absurd (hall _) hnot

/-- A step at which it fails is the first that does not pass, and the first that does not pass is
the step at which it fails. -/
theorem exists_result_error_iff {step : Step} :
    (∃ fault, (a.course t title questions).result = .error fault ∧ fault.step = step) ↔
      step.IsFirstNot (a.Passes t title questions) := by
  constructor
  · rintro ⟨fault, hfault, rfl⟩
    exact (makes_iff.mpr ⟨hfault, rfl⟩).isFirstNot
  · intro hfirst
    cases hresult : (a.course t title questions).result with
    | ok exam =>
      obtain ⟨before, after, -, -, hnot⟩ := hfirst
      exact absurd (exists_result_ok_iff.mp ⟨exam, hresult⟩ step) hnot
    | error fault =>
      exact ⟨fault, rfl, (makes_iff.mpr ⟨hresult, rfl⟩).isFirstNot.unique hfirst⟩

/-- The program is asked to start only where the source stands in its folder. -/
theorem Makes.supplied_of_start {r : Except AssemblyFault CompiledExam} {deeds : List Deed}
    {request : Request} (h : a.Makes t title questions r deeds) (hstart : .start request ∈ deeds) :
    ∃ source s written, a.Supplied t title questions source s written ∧
      request = a.compiler.request s written := by
  cases h with
  | unfilled | homeless => cases hstart
  | failed hsource hmade hinside | made hsource hmade hinside =>
    cases hinside <;> simp [started] at hstart <;>
      exact ⟨_, _, _, ⟨_, hsource, hmade, by assumption⟩, hstart⟩

end Assembler

/-- **What the program said is told where it ended badly**, and nowhere else. -/
theorem AssemblyFault.isSome_diagnostics?_iff (fault : AssemblyFault) :
    fault.diagnostics?.isSome ↔
      (∃ code stderr, fault = .compilation code stderr) ∨
        ∃ stderr, fault = .disconnected stderr := by
  cases fault <;> simp [diagnostics?]

namespace Assembler

/-- **The first stage that fails is told, and nothing else.**  An exam is made exactly when every
step passes, and then it is the PDF that the program left, with the number of its questions.
Otherwise the fault is that of the first step that does not pass.  In either case it went in one of
the ways of `Makes`, which say what is told of the step and that nothing was done after it.  Where
the program was asked to start, it was given the source of the exam and nothing else; and what it
said is told where it ended badly. -/
theorem assemble_firstFault (a : Assembler) (t : FileTree) (title : String)
    (questions : List Question) :
    let result := (a.assemble t title questions).1
    let deeds := (a.course t title questions).deeds
    ((∃ exam, result = .ok exam) ↔ ∀ step, a.Passes t title questions step) ∧
      (∀ exam, result = .ok exam ↔
        ∃ source s written, a.Supplied t title questions source s written ∧
          (a.runIn s written).ending = .exited 0 ∧
          (a.runIn s written).contents.lookup [a.compiler.artifactName] = some (.file exam.pdf) ∧
          exam.questionCount = questions.length) ∧
      (∀ step, (∃ fault, result = .error fault ∧ fault.step = step) ↔
        step.IsFirstNot (a.Passes t title questions)) ∧
      a.Makes t title questions result deeds ∧
      (∀ request, .start request ∈ deeds → ∃ source, a.source title questions = .ok source ∧
        request.contents = [([Scratch.sourceName], .file source.toUTF8)]) ∧
      ∀ fault, result = .error fault →
        (fault.diagnostics?.isSome ↔ (∃ code stderr, fault = .compilation code stderr) ∨
          ∃ stderr, fault = .disconnected stderr) := by
  intro result deeds
  have hmakes : a.Makes t title questions result deeds := makes_iff.mpr ⟨rfl, rfl⟩
  refine ⟨exists_result_ok_iff, fun exam => ?_, fun step => exists_result_error_iff, hmakes,
    fun request hstart => ?_, fun fault _ => fault.isSome_diagnostics?_iff⟩
  · rw [← makes_ok_iff]
    constructor
    · intro hexam
      exact ⟨deeds, makes_iff.mpr ⟨hexam, rfl⟩⟩
    · rintro ⟨deeds', h⟩
      exact (makes_iff.mp h).1
  · obtain ⟨source, s, written, ⟨made, hsource, hmade, hwrite⟩, rfl⟩ :=
      hmakes.supplied_of_start hstart
    exact ⟨source, hsource, Scratch.below_writeSource hmade hwrite⟩

/-- The path of the folder for scratch folders, with separators at its end. -/
def stretched : Nat → String
  | 0 => "/tmp/"
  | more + 1 => stretched more ++ "/"

/-- An assembler whose program leaves a PDF but ends with the code one. -/
def halting (more : Nat) : Assembler where
  template := ⟨[.text "\\question".toList]⟩
  program r := { ending := .exited 1, contents := (["exam.pdf"], .file ⟨#[1]⟩) :: r.contents }
  scratchRoot := stretched more

/-- The files before: a folder for scratch folders. -/
def desk : FileTree where
  entries := [(["tmp"], .folder)]

/-- The folder that is made there. -/
def tray (more : Nat) : Scratch where
  root := ["tmp"]
  rootPath := stretched more
  name := "MaTeX000000"

theorem toList_stretched (n : Nat) :
    (stretched n).toList = ['/', 't', 'm', 'p'] ++ List.replicate (n + 1) '/' := by
  induction n with
  | zero => rfl
  | succ n ih =>
    have hmore : List.replicate (n + 1 + 1) '/' = List.replicate (n + 1) '/' ++ ['/'] :=
      List.replicate_succ'
    rw [stretched, String.toList_append, ih, hmore, List.append_assoc]
    rfl

theorem utf8ByteSize_stretched (n : Nat) : (stretched n).utf8ByteSize = 5 + n := by
  induction n with
  | zero => rfl
  | succ n ih =>
    rw [stretched, String.utf8ByteSize_append, ih]
    rfl

/-- However many separators there are, the path leads to the folder. -/
theorem walk_stretched (n : Nat) :
    (Path.pieces (stretched n)).foldlM desk.step [] = .ok ["tmp"] := by
  induction n with
  | zero => rfl
  | succ n ih =>
    have hpieces := Path.pieces_append_sep (stretched n) ""
    rw [String.append_empty] at hpieces
    rw [stretched, hpieces, List.foldlM_append, ih]
    rfl

theorem firstPath_stretched (n : Nat) :
    Scratch.firstPath (stretched n) = stretched n ++ "MaTeX000000" := by
  have hsep : Path.endsInSeparator (stretched n) = true := by
    cases n with
    | zero => rfl
    | succ n => exact Path.endsInSeparator_append (by decide) _
  have hname : Scratch.folderName 0 = "MaTeX000000" := rfl
  rw [Scratch.firstPath, hname, Path.join_eq_append (by decide), Path.lead, hsep, Bool.or_true,
    if_pos rfl]

theorem utf8ByteSize_firstPath_stretched (n : Nat) :
    (Scratch.firstPath (stretched n)).utf8ByteSize = 16 + n := by
  have hname : "MaTeX000000".utf8ByteSize = 11 := rfl
  rw [firstPath_stretched, String.utf8ByteSize_append, utf8ByteSize_stretched, hname]
  omega

theorem utf8ByteSize_sourcePath_stretched (n : Nat) :
    (Scratch.sourcePath (stretched n)).utf8ByteSize = 25 + n := by
  have hname : ("/" ++ Scratch.sourceName).utf8ByteSize = 9 := rfl
  rw [Scratch.sourcePath_eq, String.utf8ByteSize_append, utf8ByteSize_firstPath_stretched, hname]
  omega

theorem not_mem_firstPath_stretched (n : Nat) :
    '\x00' ∉ (Scratch.firstPath (stretched n)).toList := by
  simp [firstPath_stretched, toList_stretched]

theorem isAbsolute_stretched (n : Nat) : Path.isAbsolute (stretched n) = true := by
  simp [Path.isAbsolute, toList_stretched]

theorem rootPath_stretched (n : Nat) :
    Path.join (Place.path desk.workingFolder) (stretched n) = stretched n := by
  rw [Path.join, isAbsolute_stretched, if_pos rfl]

/-- A scratch folder is made while its path has 4095 bytes at most, -/
theorem create_stretched {n : Nat} (h : n ≤ 4079) :
    Scratch.create desk (stretched n) = .ok (tray n, desk.put (tray n).place .folder) := by
  have hne : stretched n ≠ "" := by
    rw [ne_eq, ← String.toList_eq_nil_iff, toList_stretched]
    simp
  have hcheck : FileTree.checkPath (Scratch.firstPath (stretched n)) = .ok () := by
    refine FileTree.checkPath_eq_ok_iff.mpr
      ⟨not_mem_firstPath_stretched n, Scratch.firstPath_ne_empty _, ?_⟩
    rw [utf8ByteSize_firstPath_stretched, FileTree.longestPath]
    omega
  have hresolve : desk.resolve (stretched n) = .ok ["tmp"] := by
    rw [firstPath_stretched] at hcheck
    rw [FileTree.resolve_eq_ok_iff, FileTree.start, isAbsolute_stretched, if_pos rfl]
    exact ⟨FileTree.checkPath_of_append hne hcheck, walk_stretched n⟩
  rw [Scratch.create_eq_ok_iff]
  exact ⟨(rootPath_stretched n).symm, hcheck, hresolve, rfl, rfl, rfl⟩

/-- and not where it has more. -/
theorem create_stretched_of_lt {n : Nat} (h : 4079 < n) :
    Scratch.create desk (stretched n) = .error .tooLong := by
  have hcheck : FileTree.checkPath (Scratch.firstPath (stretched n)) = .error .tooLong := by
    refine FileTree.checkPath_eq_tooLong_iff.mpr ⟨not_mem_firstPath_stretched n, ?_⟩
    rw [utf8ByteSize_firstPath_stretched, FileTree.longestPath]
    omega
  rw [Scratch.create, rootPath_stretched, hcheck]
  rfl

theorem source_halting (n : Nat) : (halting n).source "Algebra" [] = .ok "\\question" := rfl

/-- The path of the source is longer by nine bytes, so there are folders without a source. -/
theorem assemble_stretched {n : Nat} (hlow : 4070 < n) (hhigh : n ≤ 4079) :
    ((halting n).assemble desk "Algebra" []).1 = .error (.source .tooLong) := by
  have hlong : (tray n).writeSource (desk.put (tray n).place .folder) "\\question" =
      .error .tooLong := by
    rw [Scratch.writeSource_of_create (create_stretched hhigh), if_pos]
    rw [tray, utf8ByteSize_sourcePath_stretched, FileTree.longestPath]
    omega
  have hmakes := Makes.failed (source_halting n) (create_stretched hhigh) (.unwritten hlong)
  exact (makes_iff.mp hmakes).1

theorem assemble_stretched_of_lt {n : Nat} (h : 4079 < n) :
    ((halting n).assemble desk "Algebra" []).1 = .error (.scratch .tooLong) :=
  (makes_iff.mp (.homeless (source_halting n) (create_stretched_of_lt h))).1

/-- The PDF that was left is of no use: that the program ended with another code comes first.  With
a path that is one byte longer than the one of a source may be, the source is not written; with a
path that is one byte longer than the one of a folder may be, no folder is made. -/
theorem assemble_firstFault_halting :
    (((halting 0).assemble desk "Algebra" []).1 = .error (.compilation 1 "") ∧
      Step.IsFirstNot ((halting 0).Passes desk "Algebra" []) .endWell ∧
      ∃ request, .start request ∈ ((halting 0).course desk "Algebra" []).deeds ∧
        ∃ source, (halting 0).source "Algebra" [] = .ok source ∧
          request.contents = [(["exam.tex"], .file source.toUTF8)]) ∧
    (((halting 4071).assemble desk "Algebra" []).1 = .error (.source .tooLong) ∧
      Step.IsFirstNot ((halting 4071).Passes desk "Algebra" []) .writeSource) ∧
    ((halting 4080).assemble desk "Algebra" []).1 = .error (.scratch .tooLong) ∧
      Step.IsFirstNot ((halting 4080).Passes desk "Algebra" []) .makeFolder := by
  obtain ⟨-, -, hfirst, -, hgiven, -⟩ := (halting 0).assemble_firstFault desk "Algebra" []
  obtain ⟨-, -, hunwritten, -⟩ := (halting 4071).assemble_firstFault desk "Algebra" []
  obtain ⟨-, -, hhomeless, -⟩ := (halting 4080).assemble_firstFault desk "Algebra" []
  have hwrite : (tray 0).writeSource (desk.put (tray 0).place .folder) "\\question" =
      .ok ((desk.put (tray 0).place .folder).put ((tray 0).place ++ [Scratch.sourceName])
        (.file "\\question".toUTF8)) := rfl
  obtain ⟨hresult, hdeeds⟩ := makes_iff.mp <| Makes.failed (source_halting 0)
    (create_stretched (Nat.zero_le _)) (.refused hwrite rfl (by decide : (1 : Int) ≠ 0))
  obtain ⟨request, hstart⟩ :
      ∃ request, .start request ∈ ((halting 0).course desk "Algebra" []).deeds := by
    rw [hdeeds]
    exact ⟨_, List.mem_cons_of_mem _ (List.mem_cons_of_mem _ List.mem_cons_self)⟩
  have hlong := assemble_stretched (n := 4071) (by decide) (by decide)
  have hlonger := assemble_stretched_of_lt (n := 4080) (by decide)
  exact ⟨⟨hresult, (hfirst _).mp ⟨_, hresult, rfl⟩, request, hstart, hgiven request hstart⟩,
    ⟨hlong, (hunwritten _).mp ⟨_, hlong, rfl⟩⟩, hlonger, (hhomeless _).mp ⟨_, hlonger, rfl⟩⟩

end Assembler

end ExamPress.Press
