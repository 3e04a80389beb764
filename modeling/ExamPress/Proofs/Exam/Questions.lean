import ExamPress.Press.Assembly
import ExamPress.Proofs.Exam.Builtin
import ExamPress.Proofs.Markup.Questions
import ExamPress.Proofs.Question.Picking

/-!
# How many questions are typeset

With the built-in template an exam has one question for each document that is set in the texts of
its questions.  Every question that was asked for is there just once when its text is one document
and no other is set in it: then the command stands at the beginning of the line after the remark
with the id.  Nothing keeps the text of a question from being something else, since any node can be
set by itself, and a document may stand in another.  So without that there may be fewer questions
than were asked for, or more.

## What is here

* `newline_not_mem_remark`, `hasQuestions_remark` — the remark of a question is one line, and it
  holds no question;
* `hasQuestions_questionText` — the questions in the lines of a question;
* `hasQuestions_examText` — those in an exam;
* `source_builtin` — what is typeset with the built-in template;
* `SetOnce`, `occurrences_source` — the theorem.
-/

set_option autoImplicit false

namespace ExamPress

open Document (Node)
open Text (occurrences Parted)

/-! ## The lines of a question -/

namespace Template

open Markup

/-- The remark of a question, without the end of its line. -/
def remark (f : Fragment) : List Char :=
  "% question ".toList ++ Number.intText f.id.toInt ++ sourceText f

theorem questionText_eq (f : Fragment) :
    questionText f = remark f ++ ['\n'] ++ (f.latex.toList ++ ['\n', '\n']) := by
  have hend : "\n\n".toList = ['\n', '\n'] := rfl
  have hline : "\n".toList = ['\n'] := rfl
  unfold questionText remark
  rw [hend, hline]
  simp only [List.append_assoc]

theorem sourceText_cases (f : Fragment) :
    sourceText f = [] ∨ sourceText f = [':', ' '] ++ f.source.toList := by
  unfold sourceText
  split
  · exact .inl rfl
  · exact .inr rfl

variable {q : Question} {questions : List Question}

/-- **The remark of a question is one line.** -/
theorem newline_not_mem_remark (q : Question) : '\n' ∉ remark (.ofQuestion q) := by
  have hstart : '\n' ∉ "% question ".toList := by decide
  have hid : ∀ i, '\n' ∉ Number.intText i := Number.not_mem_intText (by decide) (by decide)
  have hcolon : '\n' ∉ [':', ' '] := by decide
  have hlabel : '\n' ∉ (Fragment.ofQuestion q).source.toList := newline_not_mem_label _
  unfold remark
  rcases sourceText_cases (.ofQuestion q) with hsource | hsource <;>
    simp only [hsource, List.mem_append, hstart, hid, hcolon, hlabel, List.not_mem_nil, or_false,
      not_false_eq_true]

/-- The remark of a question holds no question when no document is set in the name of its
source. -/
theorem hasQuestions_remark (hfree : QuestionFree q.sourceLabel)
    (hnone : Node.questionsSetOf q.sourceLabel.children = 0) :
    HasQuestions (remark (.ofQuestion q)) 0 := by
  have hstart : HasQuestions "% question ".toList 0 := .of_not_mem (by decide)
  have hid : ∀ i, HasQuestions (Number.intText i) 0 := fun i =>
    .of_not_mem (Number.not_mem_intText (by decide) (by decide) i)
  have hcolon : HasQuestions [':', ' '] 0 := .of_not_mem (by decide)
  have hlabel : HasQuestions (Fragment.ofQuestion q).source.toList 0 :=
    hasQuestions_label hfree hnone
  have hnumber := hstart.append (hid (Fragment.ofQuestion q).id.toInt)
    (.of_last (by rfl) (by decide))
  unfold remark
  rcases sourceText_cases (.ofQuestion q) with hsource | hsource
  · rw [hsource, List.append_nil]
    exact hnumber
  · rw [hsource]
    exact hnumber.append (hcolon.append hlabel (.of_last (by rfl) (by decide)))
      (.of_head rfl (by decide))

/-- **The questions in the lines of a question** are the documents that are set in its text. -/
theorem hasQuestions_questionText (hfree : QuestionFree q.document)
    (hremark : HasQuestions (remark (.ofQuestion q)) 0) :
    HasQuestions (questionText (.ofQuestion q)) q.document.questionsSet := by
  have hline : HasQuestions ['\n'] 0 := .of_not_mem (by decide)
  have hlines : HasQuestions ['\n', '\n'] 0 := .of_not_mem (by decide)
  have hlatex : HasQuestions (Fragment.ofQuestion q).latex.toList q.document.questionsSet := by
    have hnode := hasQuestions_node q.document hfree {}
    rwa [← String.toList_ofList (l := node {} q.document)] at hnode
  have hfirst := hremark.append hline (.of_head rfl (by decide))
  have hrest := hlatex.append hlines (.of_head rfl (by decide))
  rw [questionText_eq]
  simpa using hfirst.append hrest (.of_last List.getLast?_concat (by decide))

/-! ## The text of an exam -/

/-- What is asked of questions here: no text holds the command that begins a question, and no
document is set in the name of a source. -/
def Plain (questions : List Question) : Prop :=
  ∀ q ∈ questions, QuestionFree q.document ∧ QuestionFree q.sourceLabel ∧
    Node.questionsSetOf q.sourceLabel.children = 0

theorem getLast?_questionText (f : Fragment) : (questionText f).getLast? = some '\n' := by
  rw [questionText_eq, List.getLast?_append, List.getLast?_append]
  rfl

/-- The lines of questions, with something behind them. -/
theorem hasQuestions_flatMap (h : Plain questions) {v : List Char} {n : Nat}
    (hv : HasQuestions v n) :
    HasQuestions ((questions.map Fragment.ofQuestion).flatMap questionText ++ v)
      ((questions.map fun q => q.document.questionsSet).sum + n) := by
  induction questions with
  | nil => simpa using hv
  | cons q questions ih =>
    rw [Plain, List.forall_mem_cons] at h
    obtain ⟨hdocument, hlabel, hnone⟩ := h.1
    have hfirst := hasQuestions_questionText hdocument (hasQuestions_remark hlabel hnone)
    rw [List.map_cons, List.flatMap_cons, List.map_cons, List.sum_cons, List.append_assoc,
      Nat.add_assoc]
    exact hfirst.append (ih h.2) (.of_last (getLast?_questionText _) (by decide))

/-- The text of an exam before its questions. -/
def opening (title : String) : List Char :=
  beforeTitle ++ title.toList ++ betweenTitles ++ title.toList ++ afterTitles

theorem getLast?_opening (title : String) : (opening title).getLast? = some '\n' := by
  rw [opening, List.getLast?_append]
  rfl

theorem hasQuestions_opening {title : String} (htitle : ¬questionWord <:+: title.toList) :
    HasQuestions (opening title) 0 := by
  have htext : HasQuestions title.toList 0 := .of_lacks htitle
  have hbefore : HasQuestions beforeTitle 0 := .of_lacks (by decide +kernel)
  have hbetween : HasQuestions betweenTitles 0 := .of_lacks (by decide +kernel)
  have hafter : HasQuestions afterTitles 0 := .of_lacks (by decide +kernel)
  have hfirst : HasQuestions (beforeTitle ++ title.toList) 0 :=
    hbefore.append htext (.of_last (c := '\x7b') (by rfl) (by decide))
  have hheader := hfirst.append hbetween (.of_head (c := '\x7d') (by rfl) (by decide))
  have hlast : (beforeTitle ++ title.toList ++ betweenTitles).getLast? = some '\x7b' := by
    rw [List.getLast?_append]
    rfl
  have hpage := hheader.append htext (.of_last hlast (by decide))
  exact hpage.append hafter (.of_head (c := '\x7d') (by rfl) (by decide))

theorem hasQuestions_ending : HasQuestions ending 0 := .of_lacks (by decide +kernel)

/-- **What is typeset with the built-in template**: an opening, the lines of the questions, and an
ending. -/
theorem source_builtin {a : Press.Assembler} (hbuiltin : builtin = .ok a.template) (title : String)
    (questions : List Question) :
    ∃ source, a.source title questions = .ok source ∧
      source.toList = examText title (questions.map .ofQuestion) ∧
      source.toList =
        opening title ++ ((questions.map .ofQuestion).map questionText).flatten ++ ending := by
  have htemplate : a.template = builtinTemplate := by
    rw [builtin_eq] at hbuiltin
    exact (Except.ok.inj hbuiltin).symm
  refine ⟨String.ofList (examText title (questions.map .ofQuestion)), ?_, String.toList_ofList, ?_⟩
  · rw [Press.Assembler.source, htemplate, fillExam_builtinTemplate]
  · rw [String.toList_ofList, examText, opening, List.flatMap_def]

/-- **The questions in an exam** are the documents that are set in the texts of its questions. -/
theorem hasQuestions_examText {title : String} (htitle : ¬questionWord <:+: title.toList)
    (h : Plain questions) :
    HasQuestions (examText title (questions.map .ofQuestion))
      (questions.map fun q => q.document.questionsSet).sum := by
  have hall := (hasQuestions_opening htitle).append (hasQuestions_flatMap h hasQuestions_ending)
    (.of_last (getLast?_opening title) (by decide))
  simpa [examText, opening] using hall

/-- **The lines of a question that is set once**: a remark that begins with the id, on one line, and
on the next line the command that begins the question, which stands there and nowhere else. -/
def SetOnce (q : Question) (block : List Char) : Prop :=
  ∃ remark body, block = remark ++ '\n' :: (questionMark ++ body ++ ['\n']) ∧
    "% question ".toList ++ Number.intText q.id.toInt <+: remark ∧ '\n' ∉ remark ∧
    occurrences questionMark block = 1

/-- A question whose text is one document, and no other is set in it. -/
def IsOne (q : Question) : Prop :=
  ∃ content, q.document = .document content ∧ Node.questionsSetOf content = 0

theorem questionsSet_of_isOne (h : IsOne q) : q.document.questionsSet = 1 := by
  obtain ⟨content, hdocument, hnone⟩ := h
  rw [hdocument, Node.questionsSet, hnone]

theorem setOnce_questionText (h : IsOne q) (hdocument : QuestionFree q.document)
    (hlabel : QuestionFree q.sourceLabel)
    (hnone : Node.questionsSetOf q.sourceLabel.children = 0) :
    SetOnce q (questionText (.ofQuestion q)) := by
  have hcount := hasQuestions_questionText hdocument (hasQuestions_remark hlabel hnone)
  rw [questionsSet_of_isOne h] at hcount
  obtain ⟨content, hcontent, -⟩ := h
  have hlatex : (Fragment.ofQuestion q).latex.toList =
      questionMark ++ Text.join ['\n'] (stream .parts content) := by
    simp only [Fragment.ofQuestion, render, hcontent, String.toList_ofList, node]
  refine ⟨remark (.ofQuestion q), Text.join ['\n'] (stream .parts content) ++ ['\n'], ?_, ?_,
    newline_not_mem_remark q, hcount.mark⟩
  · rw [questionText_eq, hlatex]
    simp
  · unfold remark
    exact List.prefix_append _ _

/-- **How many questions are typeset.**  Let no text hold the command that begins a question, and
let no document be set in the name of a source.  Then with the built-in template the command stands
in the source so often as documents are set in the texts of the questions.  If each of these is one
document and no other is set in it, that is once for each question: the source is an opening without
the command, then for each question lines in which it stands once, right after the line with the id,
and an ending without it; and it stands there as often as the exam is said to have questions. -/
theorem occurrences_source (a : Press.Assembler) (hbuiltin : builtin = .ok a.template)
    (title : String) (htitle : ¬questionWord <:+: title.toList) (questions : List Question)
    (hplain : Plain questions) :
    ∃ source, a.source title questions = .ok source ∧
      occurrences questionMark source.toList =
        (questions.map fun q => q.document.questionsSet).sum ∧
      ((∀ q ∈ questions, IsOne q) →
        occurrences questionMark source.toList = questions.length ∧
        (∀ t exam, (a.assemble t title questions).1 = .ok exam →
          exam.questionCount = occurrences questionMark source.toList) ∧
        ∃ first blocks last, source.toList = first ++ blocks.flatten ++ last ∧
          first.getLast? = some '\n' ∧ occurrences questionMark first = 0 ∧
          List.Forall₂ SetOnce questions blocks ∧ occurrences questionMark last = 0) := by
  obtain ⟨source, hsource, htext, hlines⟩ := source_builtin hbuiltin title questions
  have hcount := (hasQuestions_examText htitle hplain).mark
  rw [← htext] at hcount
  refine ⟨source, hsource, hcount, fun hone => ?_⟩
  have hsum : (questions.map fun q => q.document.questionsSet).sum = questions.length := by
    rw [List.map_congr_left fun q hq => questionsSet_of_isOne (hone q hq)]
    simp
  rw [hcount, hsum]
  refine ⟨rfl, fun t exam hexam => ?_, opening title,
    (questions.map Fragment.ofQuestion).map questionText, ending, hlines, getLast?_opening title,
    (hasQuestions_opening htitle).mark, ?_, hasQuestions_ending.mark⟩
  · have hquestions := a.map_questionCount_assemble t title questions
    rw [hexam] at hquestions
    exact Except.ok.inj hquestions
  · rw [List.map_map, List.forall₂_map_right_iff, List.forall₂_same]
    intro q hq
    obtain ⟨hdocument, hlabel, hnone⟩ := hplain q hq
    exact setOnce_questionText (hone q hq) hdocument hlabel hnone

/-- A question whose text is one document, from a lesson with a name. -/
def usual : Question where
  id := 7
  document := .document [.paragraph [.text "x"]]
  sourceLabel := .document [.text "y"]

/-- With the built-in template, and a program that does nothing. -/
def plainAssembler : Press.Assembler where
  template := builtinTemplate
  program := fun request => { ending := .exited 0, contents := request.contents }

/-- Two questions. -/
theorem occurrences_source_usual :
    let questions := [usual, usual]
    builtin = .ok plainAssembler.template ∧ ¬questionWord <:+: "T".toList ∧ Plain questions ∧
      (∀ q ∈ questions, IsOne q) ∧
      ∃ source, plainAssembler.source "T" questions = .ok source ∧
        occurrences questionMark source.toList = 2 := by
  intro questions
  have htitle : ¬questionWord <:+: "T".toList := by decide
  have hplain : Plain questions := by
    have husual : QuestionFree usual.document ∧ QuestionFree usual.sourceLabel ∧
        Node.questionsSetOf usual.sourceLabel.children = 0 := by
      decide +kernel
    simpa [Plain, questions] using husual
  have hone : ∀ q ∈ questions, IsOne q := by
    have husual : IsOne usual := ⟨_, rfl, by decide⟩
    simpa [questions] using husual
  obtain ⟨source, hsource, -, hcount⟩ :=
    occurrences_source plainAssembler builtin_eq "T" htitle questions hplain
  exact ⟨builtin_eq, htitle, hplain, hone, source, hsource, (hcount hone).1⟩

/-- A question whose text is no document. -/
def bare : Question where
  id := 1
  document := .text "q"
  sourceLabel := .document []

/-- A question whose text is a document with another in it. -/
def doubled : Question where
  id := 2
  document := .document [.document []]
  sourceLabel := .document []

/-- A question with a document in the name of its source. -/
def named : Question where
  id := 3
  document := .document []
  sourceLabel := .document [.document [.text "x"]]

/-- **Questions that are not set once.**  All are read without a fault, and none holds the command.
In the source of the first there is no question; in that of the second there are two, and so there
are in that of the third, one of them in the remark. -/
theorem occurrences_source_notOnce :
    Question.ofStored 1 "\x7b\"type\": \"text\", \"text\": \"q\"\x7d" (.document []) = .ok bare ∧
      Question.ofStored 2 "\x7b\"type\": \"doc\", \"content\": [\x7b\"type\": \"doc\"\x7d]\x7d"
        (.document []) = .ok doubled ∧
      Question.ofStored 3 "\x7b\"type\": \"doc\"\x7d" (.document [.document [.text "x"]]) =
        .ok named ∧
      ¬questionWord <:+: "T".toList ∧ Plain [bare] ∧ Plain [doubled] ∧
      QuestionFree named.document ∧ QuestionFree named.sourceLabel ∧
      (∃ source, plainAssembler.source "T" [bare] = .ok source ∧
        occurrences questionMark source.toList = 0) ∧
      (∃ source, plainAssembler.source "T" [doubled] = .ok source ∧
        occurrences questionMark source.toList = 2) ∧
      ∃ source, plainAssembler.source "T" [named] = .ok source ∧
        occurrences questionMark source.toList = 2 := by
  have htitle : ¬questionWord <:+: "T".toList := by decide
  have hbare : Plain [bare] := by
    rw [Plain, List.forall_mem_singleton]
    decide +kernel
  have hdoubled : Plain [doubled] := by
    rw [Plain, List.forall_mem_singleton]
    decide +kernel
  refine ⟨by decide +kernel, by decide +kernel, by decide +kernel, htitle, hbare, hdoubled,
    by decide +kernel, by decide +kernel, ⟨_, fillExam_builtinTemplate "T" _, ?_⟩,
    ⟨_, fillExam_builtinTemplate "T" _, ?_⟩, _, fillExam_builtinTemplate "T" _, ?_⟩
  · rw [String.toList_ofList, (hasQuestions_examText htitle hbare).mark]
    decide
  · rw [String.toList_ofList, (hasQuestions_examText htitle hdoubled).mark]
    decide
  · rw [String.toList_ofList]
    decide +kernel

end Template

end ExamPress
