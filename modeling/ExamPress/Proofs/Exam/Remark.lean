import ExamPress.Proofs.Exam.Questions
import ExamPress.Proofs.Markup.Returns

/-!
# What is on the line of a remark

In the built-in template the name of a source stands in a remark, behind a percent sign, and what
the typesetter does not read ends with the line.  So what is in a name is typeset as soon as an end
of a line gets into it.  A line feed never does.  For the typesetter a carriage return ends a line
as well, and that may get into a name from a payload.

## What is here

* `RemarkOnItsLine` — the lines of a question with the remark on the first of them;
* `source_remarks` — the theorem;
* `source_remarks_return` — a carriage return in a remark.
-/

set_option autoImplicit false

namespace ExamPress.Template

open Document (Node)
open Markup

/-- **The lines of a question, with a remark that ends where its line does.**  After the id comes
something that holds no line feed, then the end of the line and the text of the question.  In what
comes after the id there is no carriage return either, if the name of the source is one in which
these get lost. -/
def RemarkOnItsLine (q : Question) (block : List Char) : Prop :=
  ∃ comment,
    block = "% question ".toList ++ Number.intText q.id.toInt ++ comment ++ ['\n'] ++
      (render q.document).toList ++ ['\n', '\n'] ∧
    '\n' ∉ comment ∧ (ReturnSafe q.sourceLabel → '\r' ∉ comment)

theorem remarkOnItsLine_questionText (q : Question) :
    RemarkOnItsLine q (questionText (.ofQuestion q)) := by
  refine ⟨sourceText (.ofQuestion q), ?_, fun hmem => ?_, fun hsafe => ?_⟩
  · rw [questionText_eq]
    unfold remark
    simp only [Fragment.ofQuestion, List.append_assoc]
  · exact newline_not_mem_remark q (List.mem_append_right _ hmem)
  · have hcolon : '\r' ∉ [':', ' '] := by decide
    have hlabel : '\r' ∉ (Fragment.ofQuestion q).source.toList := return_not_mem_label hsafe
    rcases sourceText_cases (.ofQuestion q) with hsource | hsource <;> rw [hsource]
    · exact List.not_mem_nil
    · exact fun hmem => (List.mem_append.mp hmem).elim hcolon hlabel

/-- **The name of a source does not leave its remark**, as far as line feeds go.  There is none in
the name made of any node, and with the built-in template the remark of each question begins on a
new line, and the text of the question on the next one.  Carriage returns stay out of it if each of
them stands at the edge of a line of its payload. -/
theorem source_remarks (a : Press.Assembler) (hbuiltin : builtin = .ok a.template) (title : String)
    (questions : List Question) :
    (∀ n : Node, '\n' ∉ (label n).toList ∧ (ReturnSafe n → '\r' ∉ (label n).toList)) ∧
      ∃ source first blocks last, a.source title questions = .ok source ∧
        source.toList = first ++ blocks.flatten ++ last ∧ first.getLast? = some '\n' ∧
        List.Forall₂ RemarkOnItsLine questions blocks := by
  obtain ⟨source, hsource, -, hlines⟩ := source_builtin hbuiltin title questions
  refine ⟨fun n => ⟨newline_not_mem_label n, return_not_mem_label⟩, source, opening title,
    (questions.map Fragment.ofQuestion).map questionText, ending, hsource, hlines,
    getLast?_opening title, ?_⟩
  rw [List.map_map, List.forall₂_map_right_iff, List.forall₂_same]
  exact fun q _ => remarkOnItsLine_questionText q

/-- A question whose source has a name with something in it between two texts. -/
def questionFrom (between : String) : Question where
  id := 1
  document := .document [.text "q"]
  sourceLabel := .document [.text ("a" ++ between ++ "b")]

/-- A payload whose lines end in two characters. -/
theorem source_remarks_twoCharacters :
    let q := questionFrom "\r\n"
    builtin = .ok plainAssembler.template ∧ ReturnSafe q.sourceLabel ∧
      label q.sourceLabel = "a b" ∧ '\r' ∉ (label q.sourceLabel).toList ∧
      ∃ source first block last, plainAssembler.source "T" [q] = .ok source ∧
        source.toList = first ++ block ++ last ∧ RemarkOnItsLine q block := by
  intro q
  have hsafe : ReturnSafe q.sourceLabel := by decide +kernel
  obtain ⟨hnames, source, first, blocks, last, hsource, hlines, -, hblocks⟩ :=
    source_remarks plainAssembler builtin_eq "T" [q]
  obtain ⟨block, _, hblock, hrest, rfl⟩ := List.forall₂_cons_left_iff.mp hblocks
  cases hrest
  refine ⟨builtin_eq, hsafe, by decide +kernel, (hnames _).2 hsafe, source, first, block, last,
    hsource, ?_, hblock⟩
  simpa using hlines

/-- **A carriage return in a remark.**  The node is read without a fault, and the carriage return in
its payload stands in the name, and in the source between the percent sign and the line feed. -/
theorem source_remarks_return :
    let q := questionFrom "\r"
    Node.ofJson "[\"doc\", [[\"text\", \"a\\rb\"]]]" = .ok q.sourceLabel ∧
      label q.sourceLabel = "a\rb" ∧
      ∃ source first last, plainAssembler.source "T" [q] = .ok source ∧
        source.toList = first ++ "% question 1: a\rb\n\\question q\n\n".toList ++ last ∧
        first.getLast? = some '\n' := by
  intro q
  have hblock : questionText (.ofQuestion q) = "% question 1: a\rb\n\\question q\n\n".toList := by
    decide +kernel
  refine ⟨by decide +kernel, by decide +kernel, _, opening "T", ending,
    fillExam_builtinTemplate "T" [.ofQuestion q], ?_, getLast?_opening "T"⟩
  rw [String.toList_ofList, ← hblock, examText, opening, List.flatMap_singleton]

end ExamPress.Template
