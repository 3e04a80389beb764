import ExamPress.Proofs.Document.Words
import ExamPress.Proofs.Markup.Label
import ExamPress.Proofs.Question.Loading

/-!
# The source of a question

A question goes under the name of its lesson, or under that of the unit when the lesson's name says
nothing.  What says nothing is found by its words: a name counts if any payload in it is not blank,
wherever it stands.  What is shown of a name in the end is its markup, and that need not be the
same.  A name that is a leaf has no nodes to be set; the words of an introduction are not set by
themselves; and a document in a name is set as a question even without words.

So the question goes under the first of the two names that shows something only if in the name of
the lesson words and markup agree, and they do in every name without such nodes.

## What is here

* `Node.Wordless.isBlank`, `Node.wordless_of_isBlank` — nodes without words, and blank nodes;
* `Node.wordless_iff_areBlank` — the names in which words and markup agree;
* `source_ofQuestion` — the theorem.
-/

set_option autoImplicit false

namespace ExamPress

open Document (Node)
open Markup (Fragment label)

/-! ## Words and markup -/

namespace Document.Node

theorem wordless_iff_children {n : Node} :
    Wordless n ↔ (∀ p ∈ n.payload?, Text.allBlank p = true) ∧ ∀ c ∈ n.children, Wordless c := by
  constructor
  · exact fun h => ⟨h n .self, fun c hc => h.of_within (.child hc .self)⟩
  · rintro ⟨hpayload, hchildren⟩ m (_ | ⟨hc, hm⟩)
    · exact hpayload
    · exact hchildren _ hc m hm

/-- **A node without words is blank**, if there is no document in it. -/
theorem Wordless.isBlank {n : Node} (h : Wordless n)
    (hdocuments : ∀ m : Node, m.Within n → m.isDocument = false) : n.isBlank = true := by
  induction n using induction_below with
  | step n ih =>
    have hbelow {nodes : List Node} (hsub : ∀ m ∈ nodes, m.Below n) : areBlank nodes = true :=
      (areBlank_iff nodes).mpr fun m hm => ih m (hsub m hm) (h.of_within (hsub m hm).within)
        fun k hk => hdocuments k (hk.trans (hsub m hm).within)
    cases n with
    | document content => exact absurd (hdocuments _ .self) nofun
    | paragraph content | orderedList attrs content => exact hbelow fun m hm => .of_mem hm
    | text t => exact h _ .self _ rfl
    | inlineFormula attrs | displayFormula attrs => exact h _ .self _ rfl
    | listItem content =>
      rw [isBlank_listItem]
      exact hbelow fun m hm => below_of_mem_bodyOf hm
    | listItemIntro content => rfl
    | unknown => rfl

/-- **A blank node has no words**, if there is no introduction in it. -/
theorem wordless_of_isBlank {n : Node} (h : n.isBlank = true)
    (hintro : ∀ m : Node, m.Within n → m.isIntroduction = false) : Wordless n := by
  induction n using induction_below with
  | step n ih =>
    have hbelow (hnodes : areBlank n.children = true) : ∀ c ∈ n.children, Wordless c :=
      fun c hc => ih c (.of_mem hc) ((areBlank_iff _).mp hnodes c hc)
        fun k hk => hintro k (.trans hk (.child hc .self))
    rw [wordless_iff_children]
    cases n with
    | document content => exact absurd h nofun
    | paragraph content | orderedList attrs content => exact ⟨nofun, hbelow h⟩
    | text t => exact ⟨fun p hp => Option.some.inj hp ▸ h, nofun⟩
    | inlineFormula attrs | displayFormula attrs =>
      exact ⟨fun p hp => Option.some.inj hp ▸ h, nofun⟩
    | listItem content =>
      rw [isBlank_listItem] at h
      rcases item_cases content with ⟨intro, rest, rfl, -, -⟩ | ⟨-, -, hbody⟩
      · exact absurd (hintro _ (.child List.mem_cons_self .self)) nofun
      · exact ⟨nofun, hbelow (hbody ▸ h)⟩
    | listItemIntro content => exact absurd (hintro _ .self) nofun
    | unknown => exact ⟨nofun, nofun⟩

/-- **Names in which words and markup agree**: the name is not a leaf, and neither documents nor
introductions stand in it. -/
theorem wordless_iff_areBlank {n : Node} (hroot : n.payload? = none)
    (hplain : ∀ m : Node, m.Below n → m.isDocument = false ∧ m.isIntroduction = false) :
    Wordless n ↔ areBlank n.children = true := by
  rw [wordless_iff_children, areBlank_iff, hroot]
  constructor
  · exact fun h c hc => (h.2 c hc).isBlank fun m hm => (hplain m ⟨c, hc, hm⟩).1
  · exact fun h => ⟨nofun, fun c hc => wordless_of_isBlank (h c hc) fun m hm =>
      (hplain m ⟨c, hc, hm⟩).2⟩

end Document.Node

/-! ## The theorem -/

/-- **The source of a question of a lesson** is the name of the unit if the lesson's name has no
words, and otherwise the name of the lesson.  Where the lesson's name has no words just when its
nodes are blank, that is the name of the lesson if it shows anything, and otherwise that of the
unit, so that the source is not empty if one of the names is not.  And so it is with every lesson's
name that is not a leaf and in which neither documents nor introductions stand. -/
theorem source_ofQuestion (l : Lesson) (questions : List Question)
    (h : l.questions? = .ok questions) (q : Question) (hq : q ∈ questions) :
    ∃ unit lesson, Node.ofJson l.unit = .ok unit ∧ Node.ofJson l.lesson = .ok lesson ∧
      (Fragment.ofQuestion q).source =
        (if lesson.Wordless then label unit else label lesson) ∧
      ((lesson.Wordless ↔ Node.areBlank lesson.children = true) →
        (Fragment.ofQuestion q).source =
            (if label lesson = "" then label unit else label lesson) ∧
          (label lesson ≠ "" ∨ label unit ≠ "" → (Fragment.ofQuestion q).source ≠ "")) ∧
      (lesson.payload? = none →
        (∀ m : Node, m.Below lesson → m.isDocument = false ∧ m.isIntroduction = false) →
        (lesson.Wordless ↔ Node.areBlank lesson.children = true)) := by
  obtain ⟨unit, lesson, hunit, hlesson, hquestions⟩ := Lesson.questions?_eq_ok_iff.mp h
  have hname : q.sourceLabel = if lesson.plainText = "" then unit else lesson := by
    obtain ⟨i, hi, rfl⟩ := List.mem_iff_getElem.mp hq
    exact (hquestions.get (hquestions.length_eq ▸ hi) hi).2.2
  have hsource : (Fragment.ofQuestion q).source =
      (if lesson.Wordless then label unit else label lesson) := by
    rw [Fragment.ofQuestion, hname, apply_ite label]
    simp only [Node.plainText_eq_empty_iff]
  refine ⟨unit, lesson, hunit, hlesson, hsource, fun hagree => ?_, Node.wordless_iff_areBlank⟩
  have hshown : (Fragment.ofQuestion q).source =
      (if label lesson = "" then label unit else label lesson) := by
    simp only [hsource, hagree, Markup.label_eq_empty_iff]
  refine ⟨hshown, fun hone => ?_⟩
  rw [hshown]
  split
  · next hempty => exact hone.resolve_left (· hempty)
  · assumption

/-- A lesson of one question, with the name of its unit and a name of its own, as they are stored. -/
def lessonNamed (name : String) : Lesson where
  course := ""
  unit := "[\"doc\", [[\"text\", \"u\"]]]"
  lesson := name
  questions := [⟨1, "[\"text\", \"q\"]"⟩]

/-- The question of such a lesson, under a name. -/
def questionNamed (name : Node) : Question := ⟨1, .text "q", name⟩

/-- An introduction and something to introduce. -/
def introducedName : Node :=
  .document [.listItem [.listItemIntro [.text "v"], .text "w"]]

/-- A name in which an introduction stands, but words and markup agree. -/
theorem source_ofQuestion_introduced :
    let l := lessonNamed
      "[\"doc\", [[\"listItem\", [[\"listItemIntro\", [[\"text\", \"v\"]]], [\"text\", \"w\"]]]]]"
    l.questions? = .ok [questionNamed introducedName] ∧
      questionNamed introducedName ∈ [questionNamed introducedName] ∧
      (introducedName.Wordless ↔ Node.areBlank introducedName.children = true) ∧
      (Fragment.ofQuestion (questionNamed introducedName)).source =
        "\\uplevel\x7bv\x7d \\part w" := by
  intro l
  have h : l.questions? = .ok [questionNamed introducedName] := by decide +kernel
  have hq : questionNamed introducedName ∈ [questionNamed introducedName] :=
    List.mem_singleton_self _
  have hread : Node.ofJson l.lesson = .ok introducedName := by decide +kernel
  have hagree : introducedName.Wordless ↔ Node.areBlank introducedName.children = true := by decide
  have hlabel : label introducedName = "\\uplevel\x7bv\x7d \\part w" := by decide +kernel
  obtain ⟨unit, lesson, -, hlesson, -, hshown, -⟩ := source_ofQuestion l _ h _ hq
  obtain rfl : introducedName = lesson := Except.ok.inj (hread.symm.trans hlesson)
  refine ⟨h, hq, hagree, (hshown hagree).1.trans ?_⟩
  rw [hlabel, if_neg (by decide)]

/-- **Questions under the wrong name.**  The first two names are a leaf and one that is all
introduction: the question goes under the name of the lesson, which shows nothing, although that of
the unit does.  The third is a document in a document: the question goes under the name of the unit,
although that of the lesson shows something. -/
theorem source_ofQuestion_disagree :
    let unit := Node.document [.text "u"]
    let leaf := Node.text "v"
    let lone := Node.document [.listItem [.listItemIntro [.text "v"]]]
    let nested := Node.document [.document []]
    (lessonNamed "[\"text\", \"v\"]").questions? = .ok [questionNamed leaf] ∧
      (lessonNamed "[\"doc\", [[\"listItem\", [[\"listItemIntro\", [[\"text\", \"v\"]]]]]]]").questions? =
        .ok [questionNamed lone] ∧
      (lessonNamed "[\"doc\", [[\"doc\", []]]]").questions? = .ok [questionNamed unit] ∧
      label unit = "u" ∧ label leaf = "" ∧ label lone = "" ∧ label nested = "\\question" ∧
      (Fragment.ofQuestion (questionNamed leaf)).source = "" ∧
      (Fragment.ofQuestion (questionNamed lone)).source = "" ∧
      (Fragment.ofQuestion (questionNamed unit)).source = "u" := by
  decide +kernel

end ExamPress
