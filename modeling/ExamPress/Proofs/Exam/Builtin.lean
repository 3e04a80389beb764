import ExamPress.Exam.Template
import ExamPress.Proofs.Template.Filling

/-!
# The template that is used when no other is given

What the built-in template makes of a title and questions can be told in full: three fixed texts
with the title between them, a block of lines for each question, and a fixed ending.  Two things
lead there.  The source of the template has only these elements, without the blanks that its tags
take away; this is found by reading it.  And what these elements show is told by the rules for
values, conditions and loops, for any texts at all, since what is shown is not looked at again.

## What is here

* `beforeTitle`, `betweenTitles`, `afterTitles`, `ending` — the fixed texts;
* `questionText` — the lines of a question, and `examText` the text of an exam;
* `builtinTemplate` — the elements of the template, and `builtin_eq` that they are those of its
  source;
* `fillExam_builtinTemplate` — what they show;
* `fillExam_builtin` — the theorem.
-/

set_option autoImplicit false

namespace ExamPress.Template

open ExamPress.Json (Value)
open ExamPress.Markup (Fragment)

/-! ## The text of an exam -/

/-- Lines, each with its ending. -/
def linesText (lines : List String) : List Char := lines.flatMap fun line => line.toList ++ ['\n']

/-- The text before the title in the header. -/
def beforeTitle : List Char :=
  linesText
    [
      "\\documentclass[11pt,a4paper]\x7bexam\x7d",
      "\\usepackage\x7bamsmath\x7d",
      "\\usepackage\x7bamssymb\x7d",
      "\\usepackage\x7bmulticol\x7d",
      "",
      "\\pagestyle\x7bheadandfoot\x7d",
      "\\firstpageheader\x7b\x7d\x7b\x7d\x7b\x7d"] ++
    "\\runningheader\x7b\x7d\x7b".toList

/-- The text between the title in the header and the title on the first page. -/
def betweenTitles : List Char :=
  linesText
    [
      "\x7d\x7b\x7d",
      "\\footer\x7b\x7d\x7b\\thepage\\ / \\numpages\x7d\x7b\x7d",
      "",
      "\\begin\x7bdocument\x7d",
      "",
      "\\begin\x7bcenter\x7d"] ++
    "  \\Large\\textbf\x7b".toList

/-- The text between the title on the first page and the questions. -/
def afterTitles : List Char :=
  linesText ["\x7d", "\\end\x7bcenter\x7d", "", "\\begin\x7bquestions\x7d"]

/-- The text after the questions. -/
def ending : List Char :=
  linesText ["\\end\x7bquestions\x7d", "", "\\end\x7bdocument\x7d"]

/-- What is said of the source of a question, if it has one. -/
def sourceText (f : Fragment) : List Char :=
  if f.source = "" then [] else ": ".toList ++ f.source.toList

/-- **The lines of a question**: a remark with its id, and with its source if it has one, then its
text and an empty line. -/
def questionText (f : Fragment) : List Char :=
  "% question ".toList ++ Number.intText f.id.toInt ++ sourceText f ++ "\n".toList ++
    f.latex.toList ++ "\n\n".toList

/-- **The text of an exam.** -/
def examText (title : String) (questions : List Fragment) : List Char :=
  beforeTitle ++ title.toList ++ betweenTitles ++ title.toList ++ afterTitles ++
    questions.flatMap questionText ++ ending

/-! ## The elements of the template -/

/-- What is shown for each question. -/
def questionElements : List Element :=
  [
    .text "% question ".toList,
    .marked ⟨19, 12⟩ (.showing "id"),
    .marked ⟨19, 18⟩
      (.ifBlock "source" [.text ": ".toList, .marked ⟨19, 34⟩ (.showing "source")]),
    .text "\n".toList,
    .marked ⟨20, 1⟩ (.showing "latex"),
    .text "\n\n".toList]

/-- **The elements of the built-in template.** -/
def builtinTemplate : Template where
  elements :=
    [
      .text beforeTitle,
      .marked ⟨8, 19⟩ (.showing "title"),
      .text betweenTitles,
      .marked ⟨14, 18⟩ (.showing "title"),
      .text afterTitles,
      .marked ⟨18, 1⟩ (.eachBlock "questions" questionElements),
      .text ending]

/-- **The source of the built-in template is read as its elements.** -/
theorem builtin_eq : builtin = .ok builtinTemplate := by
  have hread : builtin.toOption = some builtinTemplate := by decide +kernel
  cases h : builtin with
  | error refusal => simp [h, Except.toOption] at hread
  | ok t => simpa [h, Except.toOption] using hread

/-! ## What they show -/

section

variable (title : String) (questions : List Fragment)

/-- The setting at the top of the built-in template. -/
def examSetting : Setting where
  data := examData title questions
  scopes := [{ subject := .place [] }]
  whole := builtinTemplate.elements

theorem names_examSetting : ∀ scope ∈ (examSetting title questions).scopes, scope.names = [] := by
  simp [examSetting]

theorem resolve_title :
    (examSetting title questions).resolve (.named "title") =
      .ok { found := some (.string title), place := some ["title"], raw := some "title" } :=
  resolve_named (names_examSetting title questions) rfl rfl

/-- The list of the questions, found by its name. -/
def questionsOperand : Operand where
  found := some (.array (questions.map questionData))
  place := some ["questions"]
  raw := some "questions"

theorem resolve_questions :
    (examSetting title questions).resolve (.named "questions") =
      .ok (questionsOperand questions) :=
  resolve_named (names_examSetting title questions) rfl rfl

/-- In a setting about a question, names stand for its entries. -/
def IsAbout (s : Setting) (f : Fragment) : Prop :=
  ∀ name v, stepDown (some (questionData f)) name = .ok (some v) →
    ∃ o, s.resolve (.named name) = .ok o ∧ o.found = some v

/-- **The round of a question is about it.** -/
theorem isAbout_round {i : Nat} (h : i < questions.length) (counters : List (String × Value))
    (keyValue v : Value) :
    IsAbout ((examSetting title questions).enter (roundScope (questionsOperand questions) []
      counters (String.ofList (Number.natText i)) keyValue v)) questions[i] := by
  intro name found hfound
  let round := roundScope (questionsOperand questions) [] counters
    (String.ofList (Number.natText i)) keyValue v
  have hnames : ∀ scope ∈ ((examSetting title questions).enter round).scopes, scope.names = [] :=
    List.forall_mem_cons.mpr ⟨rfl, names_examSetting title questions⟩
  have hitem : i < (questions.map questionData).length := by simpa using h
  have hwalk : walk (examData title questions)
      (["questions", String.ofList (Number.natText i)] ++ [name]) = .ok (some found) := by
    have hlist : stepDown (some (examData title questions)) "questions" =
        .ok (some (.array (questions.map questionData))) := rfl
    simp only [walk, List.cons_append, List.nil_append, List.foldlM_cons, List.foldlM_nil, hlist,
      ok_bind, stepDown_item hitem, List.getElem_map, hfound]
    rfl
  exact ⟨_, resolve_named hnames rfl hwalk, rfl⟩

variable {filler : Filler} {s : Setting} {f : Fragment}

/-- **What is shown for a question are its lines.** -/
theorem allShow_questionElements (h : IsAbout s f) :
    AllShow filler s questionElements (questionText f) := by
  obtain ⟨id, hid, hidFound⟩ := h "id" _ rfl
  obtain ⟨source, hsource, hsourceFound⟩ := h "source" _ rfl
  obtain ⟨latex, hlatex, hlatexFound⟩ := h "latex" _ rfl
  have hremark : AllShow filler s [.text ": ".toList, .marked ⟨19, 34⟩ (.showing "source")]
      (": ".toList ++ (f.source.toList ++ [])) :=
    (shows_text _).cons
      (((shows_showing (by decide) hsource hsourceFound).marked _).cons allShow_nil)
  have hshow : AllShow filler s questionElements _ :=
    (shows_text "% question ".toList).cons
      (((shows_showing (by decide) hid hidFound).marked ⟨19, 12⟩).cons
        (((shows_ifBlock hsource hremark).marked ⟨19, 18⟩).cons
          ((shows_text "\n".toList).cons
            (((shows_showing (by decide) hlatex hlatexFound).marked ⟨20, 1⟩).cons
              ((shows_text "\n\n".toList).cons allShow_nil)))))
  have htruthy : truthy source.value = decide (f.source ≠ "") := by
    rw [Operand.value, hsourceFound]
    rfl
  have hsourceText :
      (if truthy source.value then ": ".toList ++ (f.source.toList ++ []) else []) =
        sourceText f := by
    rw [htruthy, sourceText, List.append_nil]
    by_cases hempty : f.source = "" <;> simp [hempty]
  refine hshow.congr ?_
  rw [hsourceText]
  -- `simp` alone would evaluate the literals of `questionText` to find its equation
  unfold questionText
  simp

/-- The rounds of the loop show the lines of the questions, one after the other. -/
theorem allShow_rounds (title : String) (questions : List Fragment) :
    List.Forall₂
      (fun scope text => AllShow filler ((examSetting title questions).enter scope)
        questionElements text)
      (itemScopes (questionsOperand questions) [] (questions.map questionData))
      (questions.map questionText) := by
  rw [List.forall₂_iff_get]
  refine ⟨by simp [itemScopes], fun i hi hi' => ?_⟩
  have h : i < questions.length := by simpa using hi'
  have hround : AllShow filler _ questionElements (questionText questions[i]) :=
    allShow_questionElements (isAbout_round title questions h
      [("first", .bool (i = 0)), ("last", .bool (i + 1 = (questions.map questionData).length)),
        ("index", natValue i)]
      (natValue i) (questionData questions[i]))
  simpa [itemScopes] using hround

/-- **What the built-in template shows** is the text of an exam. -/
theorem allShow_builtinTemplate (title : String) (questions : List Fragment) :
    AllShow filler (examSetting title questions) builtinTemplate.elements
      (examText title questions) := by
  have hloop : (Element.eachBlock "questions" questionElements).Shows filler
      (examSetting title questions) (questions.map questionText).flatten :=
    shows_eachBlock (resolve_questions title questions) rfl (allShow_rounds title questions)
  have htitle : (Element.showing "title").Shows filler (examSetting title questions) title.toList :=
    shows_showing (by decide) (resolve_title title questions) rfl
  have hshow : AllShow filler (examSetting title questions) builtinTemplate.elements _ :=
    (shows_text beforeTitle).cons ((htitle.marked ⟨8, 19⟩).cons
      ((shows_text betweenTitles).cons ((htitle.marked ⟨14, 18⟩).cons
        ((shows_text afterTitles).cons ((hloop.marked ⟨18, 1⟩).cons
          ((shows_text ending).cons allShow_nil))))))
  refine hshow.congr ?_
  simp [examText, List.flatMap_def]

/-- **The built-in template makes the text of an exam**, for every title and all questions. -/
theorem fillExam_builtinTemplate (title : String) (questions : List Fragment) :
    builtinTemplate.fillExam title questions = .ok (String.ofList (examText title questions)) := by
  have hfill : fill builtinTemplate.elements (examData title questions) =
      .ok (examText title questions) :=
    fill_eq_ok fun _ => allShow_builtinTemplate title questions
  rw [fillExam, hfill]
  rfl

end

/-! ## From the source to the text -/

/-- A title in the source, with the blanks that its tag takes away. -/
def titleTag : List Char := " \x7b\x7b~title~\x7d\x7d ".toList

/-- The loop over the questions in the source. -/
def questionLoop : List Char :=
  linesText
    [
      "\x7b\x7b#each questions\x7d\x7d",
      "% question \x7b\x7bid\x7d\x7d\x7b\x7b#if source\x7d\x7d: \x7b\x7bsource\x7d\x7d\x7b\x7b/if\x7d\x7d",
      "\x7b\x7blatex\x7d\x7d",
      "",
      "\x7b\x7b/each\x7d\x7d"]

/-- The source of the built-in template: fixed texts around two titles and a loop. -/
theorem builtinSource_eq :
    builtinSource = beforeTitle ++ titleTag ++ betweenTitles ++ titleTag ++ afterTitles ++
      questionLoop ++ ending := by
  decide +kernel

/-- **The built-in template fills with every title and all questions**, and the text is its source
with the title in place of the two tags, without the blanks around them, and with the lines of the
questions in place of the loop.  All of the texts stand there as they are. -/
theorem fillExam_builtin (title : String) (questions : List Fragment) :
    builtinSource = beforeTitle ++ titleTag ++ betweenTitles ++ titleTag ++ afterTitles ++
        questionLoop ++ ending ∧
      ∃ t, builtin = .ok t ∧
        t.fillExam title questions = .ok (String.ofList
          (beforeTitle ++ title.toList ++ betweenTitles ++ title.toList ++ afterTitles ++
            questions.flatMap questionText ++ ending)) :=
  ⟨builtinSource_eq, builtinTemplate, builtin_eq, fillExam_builtinTemplate title questions⟩

end ExamPress.Template
