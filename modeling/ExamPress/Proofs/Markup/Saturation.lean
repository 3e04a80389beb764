import ExamPress.Proofs.Markup.Mark
import ExamPress.Proofs.Text.Occurrences

/-!
# What is set inside an item

An item of the first level hands the second level down to its body, and from there on nothing leads
back: lists and items in it are subparts, however deep they stand.  So of the words of the first
level only one is in the markup of an item, its own command.

This holds of what stands in the body, and of lists in items and items in lists below it.  It does
not go for what is set in a line, that is in a paragraph or in an introduction, because the parts of
a line are set as if nothing was around them.  And payloads go into the markup as they are, so that
the brace behind an introduction may complete a word that its text begins; for this reason the
words are forbidden here without their last brace.

## What is here

* `Mark.word`, `count_marks` — the marks of a text are the places where their words occur;
* `Node.partsInLine` — is a list or an item set in a line?
* `Mark.isFirst`, `FirstFree` — the marks of the first level, and documents whose payloads do not
  begin one;
* `SetsNoFirst`, `setsNoFirst` — what is set at the second level holds none of these marks;
* `occurrences_firstLevel` — the theorem.
-/

set_option autoImplicit false

namespace ExamPress

open Document (Node ListAttrs)
open Text (occurrences)

/-! ## Lists and items in lines -/

namespace Document.Node

mutual

/-- **Is a list or an item set in a line?**  In a paragraph, or in the introduction of an item.
What is blank is not set, nor is the introduction of a blank item. -/
def partsInLine (inLine : Bool) : Node → Bool
  | document content => partsInLineOf inLine content
  | paragraph content => partsInLineOf true content
  | orderedList _ content => if inLine then !areBlank content else partsInLineOf false content
  | listItem (listItemIntro intro :: content) =>
    if inLine then !areBlank content
    else (!areBlank content && partsInLineOf true intro) || partsInLineOf false content
  | listItem content => if inLine then !areBlank content else partsInLineOf false content
  | text _ | inlineFormula _ | displayFormula _ | listItemIntro _ | unknown => false

/-- Is a list or an item of several nodes set in a line? -/
def partsInLineOf (inLine : Bool) : List Node → Bool
  | [] => false
  | n :: nodes => partsInLine inLine n || partsInLineOf inLine nodes

end

theorem partsInLineOf_eq_false_iff {inLine : Bool} {nodes : List Node} :
    partsInLineOf inLine nodes = false ↔ ∀ n ∈ nodes, partsInLine inLine n = false := by
  induction nodes with
  | nil => simp [partsInLineOf]
  | cons n nodes ih => simp [partsInLineOf, ih]

theorem partsInLine_listItem (inLine : Bool) (content : List Node) :
    partsInLine inLine (listItem content) =
      if inLine then !areBlank (bodyOf content)
      else (!areBlank (bodyOf content) && partsInLineOf true (introOf content)) ||
        partsInLineOf false (bodyOf content) := by
  rcases item_cases content with ⟨intro, rest, rfl, hintro, hbody⟩ | ⟨hne, hintro, hbody⟩
  · rw [hintro, hbody, partsInLine]
  · rw [hintro, hbody, partsInLine]
    · simp [partsInLineOf]
    · exact hne

end Document.Node

namespace Markup

variable {keep : Mark → Bool}

/-! ## The words of the first level -/

/-- **A mark is in a text as often as its word.** -/
theorem count_marks {m : Mark} (hkeep : keep m = true) (hm : m.IsNamed) (s : List Char) :
    (marks keep s).count m = occurrences m.word s := by
  induction s with
  | nil => rfl
  | cons c s ih =>
    rw [marks, List.count_append, ih, occurrences, List.count_filter hkeep]
    cases hmark : markAt? (c :: s) with
    | none =>
      have hnot : ¬m.word <+: c :: s := by
        rw [← markAt?_eq_some_iff hm, hmark]
        exact (Option.some_ne_none m).symm
      simp [hnot]
    | some k =>
      have hsame : m.word <+: c :: s ↔ k = m := by
        rw [← markAt?_eq_some_iff hm, hmark, Option.some.injEq]
      simp [hsame, List.count_singleton]

/-- Which of the marks belong to the first level. -/
def Mark.isFirst : Mark → Bool
  | .opens env => env = PartLevel.parts.environment
  | .closes _ => false
  | .part level => level = .parts

/-- The words that the marks of the first level begin with, up to where a breaker stands in them. -/
def firstWords : List (List Char) := ["\\begin\x7bparts".toList, "\\part".toList]

theorem spelledBy_firstWords : SpelledBy Mark.isFirst firstWords where
  starts {s m} h hk := by
    have hword := prefix_of_markAt? h
    cases m with
    | opens env =>
      obtain rfl : env = PartLevel.parts.environment := of_decide_eq_true hk
      exact ⟨_, List.mem_cons_self, .trans (by decide) hword⟩
    | closes env => cases hk
    | part level =>
      obtain rfl : level = .parts := of_decide_eq_true hk
      exact ⟨_, List.mem_cons_of_mem _ List.mem_cons_self, .trans (by decide) hword⟩
  goesOn := by decide

/-- **Documents whose payloads do not begin a word of the first level.** -/
def FirstFree (n : Node) : Prop :=
  ∀ m : Node, m.Within n → ∀ p ∈ m.payload?, FreeOf firstWords p

instance (n : Node) : Decidable (FirstFree n) :=
  inferInstanceAs (Decidable (∀ m : Node, m.Within n → ∀ p ∈ m.payload?, FreeOf firstWords p))

theorem FirstFree.of_below {m n : Node} (h : FirstFree n) (hm : m.Below n) : FirstFree m :=
  fun k hk => h k (hk.trans hm.within)

/-! ## Texts without these words -/

theorem HasMarks.of_allBlank {s : List Char} (h : Text.allBlank s = true) : HasMarks keep s [] :=
  .of_not_mem fun hmem => absurd (List.all_eq_true.mp h _ hmem) (by decide)

/-- Texts without marks have no marks together. -/
theorem flatMap_marks_eq_nil {parts : List (List Char)} (h : ∀ s ∈ parts, HasMarks keep s []) :
    parts.flatMap (marks keep) = [] :=
  List.flatMap_eq_nil_iff.mpr fun s hs => (h s hs).marks_eq

theorem closed_of_forall {parts : List (List Char)} (h : ∀ s ∈ parts, HasMarks keep s []) :
    ∀ s ∈ parts, Closed keep s := fun s hs => (h s hs).closed

theorem hasMarks_displayFormula_first {code : List Char} (h : FreeOf firstWords code) :
    HasMarks Mark.isFirst (displayFormula code) [] := by
  have hcode : HasMarks Mark.isFirst code [] := .of_freeOf spelledBy_firstWords h
  cases haligned : isAligned code with
  | true =>
    rw [displayFormula, haligned]
    split
    · exact .nil
    · exact hcode
  | false =>
    have hmarks := hasMarks_displayFormula hcode haligned
    have hnone : inEnv Mark.isFirst "equation".toList [] = [] := by decide
    simpa only [hnone, ite_self] using hmarks

/-- Around a list of the second level there is no mark of the first. -/
theorem listMarks_subparts (attrs : ListAttrs) :
    listMarks Mark.isFirst attrs .subparts [] = [] := by
  rw [listMarks]
  cases attrs.orientation <;> decide

/-! ## Below an item -/

/-- **A node that sets no mark of the first level**, neither at the second level nor, if no list and
no item is set with it, in a line. -/
def SetsNoFirst (n : Node) : Prop :=
  ∀ inLine, n.partsInLine inLine = false → ∀ ctx : Context,
    inLine = true ∨ ctx.level = .subparts → HasMarks Mark.isFirst (node ctx n) []

theorem SetAt.hasMarks_first {level : PartLevel} {nodes : List Node} {parts : List (List Char)}
    (hset : SetAt level nodes parts) (h : ∀ m ∈ nodes, SetsNoFirst m) {inLine : Bool}
    (hline : Node.partsInLineOf inLine nodes = false) (hlevel : inLine = true ∨ level = .subparts) :
    ∀ s ∈ parts, HasMarks Mark.isFirst s [] :=
  hset.forall_mem fun m hm ctx hctx =>
    h m hm inLine (Node.partsInLineOf_eq_false_iff.mp hline m hm) ctx (hctx ▸ hlevel)

/-- **The step from an item to what is below it**: if nothing below sets a mark of the first level,
the item sets at most its command. -/
theorem hasMarks_listItem_first {content : List Node}
    (hline : (Node.listItem content).partsInLine false = false)
    (hbelow : ∀ m : Node, m.Below (.listItem content) → SetsNoFirst m) (ctx : Context) :
    HasMarks Mark.isFirst (node ctx (.listItem content))
      (if (Node.listItem content).isBlank then []
        else [Mark.part ctx.level].filter Mark.isFirst) := by
  have hblank := allBlank_node (.listItem content) ctx
  rw [Node.partsInLine_listItem, if_neg Bool.false_ne_true, Bool.or_eq_false_iff,
    Bool.and_eq_false_iff, ← Node.isBlank_listItem] at hline
  cases h : (Node.listItem content).isBlank with
  | true => exact .of_allBlank (hblank.trans h)
  | false =>
    have hintro := (setAt_apart .parts _).hasMarks_first
      (fun m hm => hbelow m (Node.below_of_mem_introOf hm))
      (hline.1.resolve_left (by simp [h])) (.inl rfl)
    have hbody := (setAt_stream ctx.level.inside _).hasMarks_first
      (fun m hm => hbelow m (Node.below_of_mem_bodyOf hm)) hline.2 (.inr rfl)
    have hlabel := hasMarks_paragraph false (closed_of_forall hintro)
    have hmarks := hasMarks_item ctx.level hlabel.closed
      (.join (.inr rfl) (closed_of_forall hbody))
    rw [node_listItem, allBlank_item] at hblank
    rw [hblank, h, hlabel.marks_eq, flatMap_marks_eq_nil hintro,
      flatMap_marks_eq_nil hbody] at hmarks
    rw [node_listItem]
    simpa using hmarks

/-- **No node in which no document stands sets a mark of the first level.** -/
theorem setsNoFirst (n : Node) (hfree : FirstFree n)
    (hdocuments : ∀ m : Node, m.Within n → m.isDocument = false) : SetsNoFirst n := by
  induction n using Node.induction_below with
  | step n ih =>
    have hbelow (m : Node) (hm : m.Below n) : SetsNoFirst m :=
      ih m hm (hfree.of_below hm) fun k hk => hdocuments k (hk.trans hm.within)
    have hchild (m : Node) (hm : m ∈ n.children) : SetsNoFirst m := hbelow m (.of_mem hm)
    have hpayload : ∀ p ∈ n.payload?, FreeOf firstWords p := hfree n .self
    intro inLine hline ctx hlevel
    have hblank (h : n.isBlank = true) : HasMarks Mark.isFirst (node ctx n) [] :=
      .of_allBlank ((allBlank_node n ctx).trans h)
    cases n with
    | document content => exact absurd (hdocuments _ .self).symm Bool.false_ne_true
    | paragraph content =>
      rw [Node.partsInLine] at hline
      have hcontent := (setAt_apart .parts content).hasMarks_first hchild hline (.inl rfl)
      have hmarks := hasMarks_paragraph ctx.beforeParagraph (closed_of_forall hcontent)
      rw [flatMap_marks_eq_nil hcontent] at hmarks
      rw [node]
      exact hmarks
    | text t =>
      rw [node]
      exact .of_freeOf spelledBy_firstWords (hpayload _ rfl)
    | inlineFormula attrs =>
      rw [node]
      exact hasMarks_inlineFormula (.of_freeOf spelledBy_firstWords (hpayload _ rfl))
    | displayFormula attrs =>
      rw [node]
      exact hasMarks_displayFormula_first (hpayload _ rfl)
    | orderedList attrs content =>
      rw [Node.partsInLine] at hline
      cases inLine with
      | true => exact hblank (by simpa [Node.isBlank] using hline)
      | false =>
        have hsecond : ctx.level = .subparts := hlevel.resolve_left Bool.false_ne_true
        have hcontent := (setAt_apart ctx.level content).hasMarks_first hchild hline (.inr hsecond)
        have hmarks := hasMarks_list attrs ctx.level (closed_of_forall hcontent)
        rw [flatMap_marks_eq_nil hcontent, hsecond, listMarks_subparts, ite_self] at hmarks
        rw [node, hsecond]
        exact hmarks
    | listItem content =>
      cases inLine with
      | true => exact hblank (by simpa [Node.partsInLine_listItem, Node.isBlank_listItem] using hline)
      | false =>
        have hmarks := hasMarks_listItem_first hline hbelow ctx
        have hsecond : ctx.level = .subparts := hlevel.resolve_left Bool.false_ne_true
        rwa [hsecond, List.filter_cons_of_neg (by decide), List.filter_nil, ite_self] at hmarks
    | listItemIntro content => exact .nil
    | unknown => exact .nil

/-! ## The theorem -/

/-- An item that is not blank has its command before its body. -/
theorem exists_opening (level : PartLevel) {intro body : List Char}
    (h : Text.allBlank body = false) :
    ∃ opening, item level intro body = opening ++ partWord level ++ body := by
  rw [item, h, if_neg Bool.false_ne_true, command_append_blank]
  split
  · exact ⟨[], rfl⟩
  · exact ⟨"\\uplevel\x7b".toList ++ intro ++ ['\x7d', '\n'], by simp only [List.append_assoc]⟩

/-- **The words of the first level in the markup of an item.**  Let no payload in the item begin
one, let no document stand in it, and let no list and no item be set in a line of it.  Then the
environment of the first level does not begin in its markup, and the command of the first level
stands in it once if the item is set at that level and is not blank, and otherwise not at all.  That
one is its own: an item that is not blank has its command before all of its body. -/
theorem occurrences_firstLevel (content : List Node) (hfree : FirstFree (.listItem content))
    (hdocuments : ∀ m : Node, m.Within (.listItem content) → m.isDocument = false)
    (hline : (Node.listItem content).partsInLine false = false) (ctx : Context) :
    occurrences (beginEnv PartLevel.parts.environment) (node ctx (.listItem content)) = 0 ∧
      occurrences (partWord .parts) (node ctx (.listItem content)) =
        (if (Node.listItem content).isBlank = false ∧ ctx.level = .parts then 1 else 0) ∧
      ((Node.listItem content).isBlank = false →
        ∃ opening, node ctx (.listItem content) = opening ++ partWord ctx.level ++
          Text.join ['\n'] (stream .subparts (Node.bodyOf content))) := by
  have hmarks := (hasMarks_listItem_first hline (fun m hm => setsNoFirst m (hfree.of_below hm)
    fun k hk => hdocuments k (hk.trans hm.within)) ctx).marks_eq
  have hopens := count_marks (by decide : Mark.isFirst (.opens PartLevel.parts.environment) = true)
    (by decide : '\x7d' ∉ PartLevel.parts.environment) (node ctx (.listItem content))
  have hcommand := count_marks (by decide : Mark.isFirst (.part .parts) = true) trivial
    (node ctx (.listItem content))
  rw [hmarks] at hopens hcommand
  refine ⟨hopens.symm.trans ?_, hcommand.symm.trans ?_, fun h => ?_⟩
  · cases (Node.listItem content).isBlank <;> cases ctx.level <;> decide
  · cases (Node.listItem content).isBlank <;> cases ctx.level <;> decide
  · have hblank := allBlank_node (.listItem content) ctx
    rw [node_listItem, allBlank_item, h] at hblank
    rw [node_listItem]
    exact exists_opening ctx.level hblank

/-- An item with columns of subparts, one of them with an introduction and with a list in it, and
with an introduction of its own that is a paragraph. -/
def deepItem : List Node :=
  [.listItemIntro [.paragraph [.text "Given"]], .paragraph [.text "x", .list [.listItem []]],
    .grid 2
      [.listItem [.listItemIntro [.text "then"], .list [.listItem [.inline "y"]]],
        .listItem [.listItemIntro [.list [.text "lost"]]]]]

theorem occurrences_firstLevel_deepItem :
    FirstFree (.listItem deepItem) ∧
      (∀ m : Node, m.Within (.listItem deepItem) → m.isDocument = false) ∧
      (Node.listItem deepItem).partsInLine false = false ∧
      occurrences (beginEnv PartLevel.parts.environment) (node {} (.listItem deepItem)) = 0 ∧
      occurrences (partWord .parts) (node {} (.listItem deepItem)) = 1 := by
  have hfree : FirstFree (.listItem deepItem) := by decide
  have hdocuments : ∀ m : Node, m.Within (.listItem deepItem) → m.isDocument = false := by decide
  have hline : (Node.listItem deepItem).partsInLine false = false := by decide
  obtain ⟨hopens, hcommand, -⟩ := occurrences_firstLevel deepItem hfree hdocuments hline {}
  exact ⟨hfree, hdocuments, hline, hopens, hcommand.trans (if_pos (by decide))⟩

/-- An item with a list in a paragraph. -/
def lineItem : List Node := [.paragraph [.list [.listItem [.text "x"]]]]

/-- An item with an introduction to whose end a brace is missing. -/
def bracelessItem : List Node := [.listItemIntro [.text "\\begin\x7bparts"], .text "x"]

/-- **Items with more of the first level than their command.**  In neither of them is there a
document, and no payload holds one of the words.  The list in the paragraph is set at the first
level.  The brace that ends the introduction completes the beginning of an environment. -/
theorem occurrences_firstLevel_more :
    (∀ content ∈ [lineItem, bracelessItem], ∀ m : Node, m.Within (.listItem content) →
        m.isDocument = false ∧ ∀ p ∈ m.payload?,
          ¬beginEnv PartLevel.parts.environment <:+: p ∧ ¬PartLevel.parts.command <:+: p) ∧
      occurrences (beginEnv PartLevel.parts.environment) (node {} (.listItem lineItem)) = 1 ∧
      occurrences (partWord .parts) (node {} (.listItem lineItem)) = 2 ∧
      occurrences (beginEnv PartLevel.parts.environment) (node {} (.listItem bracelessItem)) = 1 := by
  decide

end Markup

end ExamPress
