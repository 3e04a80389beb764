import ExamPress.Proofs.Markup.Nesting
import Mathlib.Data.List.Count

/-!
# The levels of parts

A question has parts, and parts have subparts; there is no third level.  In the documents that the
editor makes, where everything stands in its place, the markup keeps to this: the environment of
the parts is never opened inside another one of either level, that of the subparts only inside one,
and every part begins directly in the environment of its level, columns apart.  And no part is lost
or made up: the commands are those of the items that are not blank, in their order.

The level of an item is a matter of its ancestors in the tree, the level of a command a matter of
where it stands in the text.  What connects the two is the invariant `Admits`, which says what the
open environments look like where a node is set at a level.

## What is here

* `OfSchema` — documents in which everything stands in its place;
* `MarkFree` — documents whose payloads hold none of the words that marks begin with;
* `Allowed` — where a mark may stand, and `Disciplined` — marks that all stand where they may;
* `itemLevels` — the levels of the items of a document that are not blank;
* `disciplined_render` — the theorem.
-/

set_option autoImplicit false

namespace ExamPress.Markup

open Document (Node FormulaAttrs ListAttrs)

/-! ## Documents of the editor -/

/-- The places in which nodes stand. -/
inductive Place
  /-- Below one another, in a document or in the body of an item. -/
  | block
  /-- Side by side, in a paragraph or in the introduction of an item. -/
  | line
  /-- In a list. -/
  | list
  deriving DecidableEq

/-- `InPlace p n` says that the node `n` may stand in a place `p`, and that all that stands in it is
in its place too.  Unknown nodes may stand anywhere. -/
inductive InPlace : Place → Node → Prop
  | text (t : String) : InPlace .line (.text t)
  | inlineFormula (attrs : FormulaAttrs) : InPlace .line (.inlineFormula attrs)
  | paragraph {content : List Node} (h : ∀ n ∈ content, InPlace .line n) :
      InPlace .block (.paragraph content)
  | displayFormula (attrs : FormulaAttrs) : InPlace .block (.displayFormula attrs)
  | orderedList {attrs : ListAttrs} {content : List Node} (h : ∀ n ∈ content, InPlace .list n) :
      InPlace .block (.orderedList attrs content)
  /-- An item may start with an introduction; the rest of it is its body. -/
  | listItem {content : List Node} (hintro : ∀ n ∈ Node.introOf content, InPlace .line n)
      (hbody : ∀ n ∈ Node.bodyOf content, InPlace .block n) : InPlace .list (.listItem content)
  | unknown (p : Place) : InPlace p .unknown

/-- **Documents of the editor.**  The outermost node is a document, and everything in it stands in
its place. -/
inductive OfSchema : Node → Prop
  | document {content : List Node} (h : ∀ n ∈ content, InPlace .block n) :
      OfSchema (.document content)

/-- Documents whose payloads hold none of the words that marks begin with. -/
def MarkFree (n : Node) : Prop :=
  ∀ m : Node, m.Within n → ∀ p ∈ m.payload?, FreeOf markWords p

instance (n : Node) : Decidable (MarkFree n) :=
  inferInstanceAs (Decidable (∀ m : Node, m.Within n → ∀ p ∈ m.payload?, FreeOf markWords p))

theorem MarkFree.of_within {m n : Node} (h : MarkFree n) (hm : m.Within n) : MarkFree m :=
  fun k hk => h k (hk.trans hm)

/-! ## Where a mark may stand -/

/-- **Where a mark may stand**, given the environments that are open, innermost first.  Columns do
not count for a part. -/
def Allowed (envs : List (List Char)) : Mark → Prop
  | .opens name =>
    (name = "parts".toList → "parts".toList ∉ envs ∧ "subparts".toList ∉ envs) ∧
      (name = "subparts".toList → "parts".toList ∈ envs ∨ "subparts".toList ∈ envs)
  | .closes _ => True
  | .part level => envs.find? (· ≠ "multicols".toList) = some level.environment

/-- **Marks that all stand where they may**: each one where the marks before it have left it. -/
def Disciplined (ms : List Mark) : Prop :=
  ∀ before m after, ms = before ++ m :: after →
    ∃ envs, openAfter [] before = some envs ∧ Allowed envs m

/-- `Leads a ms b` says that the marks `ms` all stand where they may when the environments `a` are
open before them, and that `b` are open after them. -/
structure Leads (a : List (List Char)) (ms : List Mark) (b : List (List Char)) : Prop where
  /-- The environments after the marks. -/
  after : openAfter a ms = some b
  /-- Every mark stands where it may. -/
  allowed : ∀ before m after, ms = before ++ m :: after →
    ∃ envs, openAfter a before = some envs ∧ Allowed envs m

namespace Leads

variable {a b c : List (List Char)} {ms ns : List Mark}

theorem nil : Leads a [] a := ⟨rfl, fun before m after h => absurd h (by simp)⟩

theorem single {m : Mark} (hm : Allowed a m) (hb : openStep a m = some b) : Leads a [m] b := by
  refine ⟨by simp [openAfter, hb], fun before k after h => ?_⟩
  cases before with
  | nil =>
    obtain ⟨rfl, -⟩ := List.cons.inj h
    exact ⟨a, rfl, hm⟩
  | cons => exact absurd h (by simp)

theorem append (hm : Leads a ms b) (hn : Leads b ns c) : Leads a (ms ++ ns) c := by
  refine ⟨(openAfter_append hm.after ns).trans hn.after, fun before m after h => ?_⟩
  rcases List.append_eq_append_iff.mp h with ⟨mid, rfl, hns⟩ | ⟨mid, rfl, hmid⟩
  · obtain ⟨envs, henvs, hallowed⟩ := hn.allowed mid m after hns
    exact ⟨envs, (openAfter_append hm.after mid).trans henvs, hallowed⟩
  · cases mid with
    | nil =>
      obtain ⟨envs, henvs, hallowed⟩ := hn.allowed [] m after hmid.symm
      obtain rfl := Option.some.inj henvs
      exact ⟨b, by simpa using hm.after, hallowed⟩
    | cons k mid =>
      obtain ⟨rfl, -⟩ := List.cons.inj hmid
      exact hm.allowed before m mid rfl

theorem flatMap {α : Type} {f : α → List Mark} :
    ∀ {xs : List α}, (∀ x ∈ xs, Leads a (f x) a) → Leads a (xs.flatMap f) a
  | [], _ => nil
  | x :: _, h =>
    (h x List.mem_cons_self).append (flatMap fun y hy => h y (List.mem_cons_of_mem x hy))

/-- An environment that may be opened, with marks in it that all stand where they may. -/
theorem inEnv {name : List Char} (hname : Allowed a (.opens name))
    (h : Leads (name :: a) ms (name :: a)) : Leads a (inEnv Mark.any name ms) a :=
  ((single hname rfl).append h).append (single trivial (by simp [openStep]))

end Leads

/-! ## The levels of the items -/

mutual

/-- **The levels of the items** of a node that are not blank, in their order: the first level for
an item that stands in no other item, the second for an item that stands in one. -/
def itemLevels (level : PartLevel) : Node → List PartLevel
  | .listItem content =>
    (if (Node.listItem content).isBlank then [] else [level]) ++ itemLevelsOf .subparts content
  | .document content | .paragraph content | .orderedList _ content | .listItemIntro content =>
    itemLevelsOf level content
  | .text _ | .inlineFormula _ | .displayFormula _ | .unknown => []

/-- The levels of the items of several nodes. -/
def itemLevelsOf (level : PartLevel) : List Node → List PartLevel
  | [] => []
  | n :: nodes => itemLevels level n ++ itemLevelsOf level nodes

end

theorem itemLevelsOf_append (level : PartLevel) (content : List Node) :
    itemLevelsOf level content =
      itemLevelsOf level (Node.introOf content) ++ itemLevelsOf level (Node.bodyOf content) := by
  rcases Node.item_cases content with ⟨intro, rest, rfl, hintro, hbody⟩ | ⟨-, hintro, hbody⟩
  · rw [hintro, hbody, itemLevelsOf, itemLevels]
  · rw [hintro, hbody]
    rfl

theorem itemLevelsOf_eq_nil {level : PartLevel} {nodes : List Node}
    (h : ∀ n ∈ nodes, itemLevels level n = []) : itemLevelsOf level nodes = [] := by
  induction nodes with
  | nil => rfl
  | cons n nodes ih =>
    rw [itemLevelsOf, h n List.mem_cons_self, ih fun m hm => h m (List.mem_cons_of_mem n hm)]
    rfl

/-- There is no item in a line. -/
theorem InPlace.itemLevels_line {n : Node} (h : InPlace .line n) (level : PartLevel) :
    itemLevels level n = [] := by
  cases h <;> rfl

/-- What is blank holds blank items only. -/
theorem InPlace.itemLevels_of_isBlank {p : Place} {n : Node} (h : InPlace p n)
    (hb : n.isBlank = true) (level : PartLevel) : itemLevels level n = [] := by
  induction h generalizing level with
  | text | inlineFormula | displayFormula | unknown => rfl
  | paragraph h =>
    rw [itemLevels]
    exact itemLevelsOf_eq_nil fun n hn => (h n hn).itemLevels_line level
  | orderedList h ih =>
    rw [Node.isBlank, Node.areBlank_iff] at hb
    rw [itemLevels]
    exact itemLevelsOf_eq_nil fun n hn => ih n hn (hb n hn) level
  | listItem hintro hbody _ ih =>
    have hblank := hb
    rw [Node.isBlank_listItem, Node.areBlank_iff] at hblank
    rw [itemLevels, if_pos hb, itemLevelsOf_append,
      itemLevelsOf_eq_nil fun n hn => (hintro n hn).itemLevels_line .subparts,
      itemLevelsOf_eq_nil fun n hn => ih n hn (hblank n hn) .subparts]
    rfl

/-! ## The invariant -/

/-- What the open environments look like where a node in a place is set at a level. -/
def Admits (envs : List (List Char)) : Place → PartLevel → Prop
  | .block, .parts => "parts".toList ∉ envs ∧ "subparts".toList ∉ envs
  | .block, .subparts => "parts".toList ∈ envs ∨ "subparts".toList ∈ envs
  | .line, _ => True
  | .list, level => envs.find? (· ≠ "multicols".toList) = some level.environment

/-- A list may be opened where a block may stand. -/
theorem Admits.allowed_opens {envs : List (List Char)} {level : PartLevel}
    (h : Admits envs .block level) : Allowed envs (.opens level.environment) := by
  cases level with
  | parts => exact ⟨fun _ => h, fun heq => absurd heq (by decide)⟩
  | subparts => exact ⟨fun heq => absurd heq (by decide), fun _ => h⟩

/-- Any other environment may be opened anywhere. -/
theorem allowed_opens_of_ne {name : List Char} (hp : name ≠ "parts".toList)
    (hs : name ≠ "subparts".toList) (envs : List (List Char)) : Allowed envs (.opens name) :=
  ⟨fun h => absurd h hp, fun h => absurd h hs⟩

/-- In the environment of a level there may be items of that level, also in columns. -/
theorem admits_list (envs : List (List Char)) (level : PartLevel) :
    Admits (level.environment :: envs) .list level ∧
      Admits ("multicols".toList :: level.environment :: envs) .list level := by
  cases level <;> exact ⟨rfl, rfl⟩

/-- An item may begin a part. -/
theorem Admits.allowed_part {envs : List (List Char)} {level : PartLevel}
    (h : Admits envs .list level) : Allowed envs (.part level) := by
  cases level <;> exact h

/-- The body of an item stands inside an environment of either level. -/
theorem Admits.body {envs : List (List Char)} {level : PartLevel} (h : Admits envs .list level) :
    Admits envs .block level.inside := by
  have hmem : level.environment ∈ envs := List.mem_of_find?_eq_some h
  cases level with
  | parts => exact .inl hmem
  | subparts => exact .inr hmem

/-! ## The markup of a document of the editor -/

namespace MarkFree

theorem hasMarks_text {t : String} (h : MarkFree (.text t)) (ctx : Context) :
    HasMarks Mark.any (node ctx (.text t)) [] := by
  rw [node]
  exact .of_freeOf spelledBy_markWords (h _ .self _ rfl)

theorem hasMarks_inline {attrs : FormulaAttrs} (h : MarkFree (.inlineFormula attrs))
    (ctx : Context) : HasMarks Mark.any (node ctx (.inlineFormula attrs)) [] := by
  rw [node]
  exact hasMarks_inlineFormula (.of_freeOf spelledBy_markWords (h _ .self _ rfl))

theorem hasMarks_display {attrs : FormulaAttrs} (h : MarkFree (.displayFormula attrs))
    (ctx : Context) :
    HasMarks Mark.any (node ctx (.displayFormula attrs))
      (if Text.allBlank attrs.source.toList then [] else inEnv Mark.any "equation".toList []) := by
  have hfree := h _ .self _ rfl
  rw [node]
  exact hasMarks_displayFormula (.of_freeOf spelledBy_markWords hfree)
    (isAligned_of_freeOf (by simp [markWords]) hfree)

theorem closed {n : Node} (h : MarkFree n) (ctx : Context) : Closed Mark.any (node ctx n) := by
  refine closed_node (fun m hm hp ctx => ?_) ctx
  have hfree := h.of_within hm
  cases m with
  | text t => exact (hfree.hasMarks_text ctx).closed
  | inlineFormula attrs => exact (hfree.hasMarks_inline ctx).closed
  | displayFormula attrs => exact (hfree.hasMarks_display ctx).closed
  | document | paragraph | orderedList | listItem | listItemIntro | unknown =>
    exact absurd hp (by simp [Node.payload?])

theorem closed_parts {n : Node} (h : MarkFree n) {level : PartLevel} {nodes : List Node}
    {parts : List (List Char)} (hset : SetAt level nodes parts)
    (hsub : ∀ m ∈ nodes, m.Below n) : ∀ s ∈ parts, Closed Mark.any s :=
  hset.forall_mem fun m hm ctx _ => (h.of_within (hsub m hm).within).closed ctx

theorem marks_paragraph {content : List Node} (h : MarkFree (.paragraph content))
    (ctx : Context) :
    marks Mark.any (node ctx (.paragraph content)) =
      (apart .parts content).flatMap (marks Mark.any) := by
  rw [node, (hasMarks_paragraph _
    (h.closed_parts (setAt_apart .parts content) fun m hm => .of_mem hm)).marks_eq]

theorem marks_item {content : List Node} (h : MarkFree (.listItem content))
    (ctx : Context) :
    marks Mark.any (node ctx (.listItem content)) =
      if (Node.listItem content).isBlank then []
      else (apart .parts (Node.introOf content)).flatMap (marks Mark.any) ++ [.part ctx.level] ++
        (stream ctx.level.inside (Node.bodyOf content)).flatMap (marks Mark.any) := by
  have hintro := h.closed_parts (setAt_apart .parts (Node.introOf content)) fun m hm =>
    Node.below_of_mem_introOf hm
  have hbody := h.closed_parts (setAt_stream ctx.level.inside (Node.bodyOf content)) fun m hm =>
    Node.below_of_mem_bodyOf hm
  have hlabel := hasMarks_paragraph false hintro
  have hblank := allBlank_node (.listItem content) ctx
  rw [node_listItem, allBlank_item] at hblank
  rw [node_listItem, (hasMarks_item _ hlabel.closed (.join (.inr rfl) hbody)).marks_eq, hblank,
    hlabel.marks_eq]
  rfl

theorem marks_list {attrs : ListAttrs} {content : List Node}
    (h : MarkFree (.orderedList attrs content)) (ctx : Context) :
    marks Mark.any (node ctx (.orderedList attrs content)) =
      if (Node.orderedList attrs content).isBlank then []
      else listMarks Mark.any attrs ctx.level
        ((apart ctx.level content).flatMap (marks Mark.any)) := by
  have hitems := h.closed_parts (setAt_apart ctx.level content) fun m hm => .of_mem hm
  have hblank := allBlank_node (.orderedList attrs content) ctx
  rw [node, allBlank_list] at hblank
  rw [node, (hasMarks_list _ _ hitems).marks_eq, hblank]

end MarkFree

/-- **Every mark in the markup of a node stands where it may**, if the environments around it are
those of its place and its level. -/
theorem InPlace.leads {p : Place} {n : Node} (hp : InPlace p n) (hn : MarkFree n) (ctx : Context)
    (envs : List (List Char)) (ha : Admits envs p ctx.level) :
    Leads envs (marks Mark.any (node ctx n)) envs := by
  induction hp generalizing ctx envs with
  | text t =>
    rw [(hn.hasMarks_text ctx).marks_eq]
    exact .nil
  | inlineFormula attrs =>
    rw [(hn.hasMarks_inline ctx).marks_eq]
    exact .nil
  | @paragraph content _ ih =>
    rw [hn.marks_paragraph]
    exact .flatMap ((setAt_apart .parts content).forall_mem fun m hm ctx _ =>
      ih m hm (hn.of_within (.child hm .self)) ctx envs trivial)
  | displayFormula attrs =>
    rw [(hn.hasMarks_display ctx).marks_eq]
    split
    · exact .nil
    · exact Leads.nil.inEnv (allowed_opens_of_ne (by decide) (by decide) envs)
  | @orderedList attrs content _ ih =>
    have hitems (envs : List (List Char)) (henvs : Admits envs .list ctx.level) :
        Leads envs ((apart ctx.level content).flatMap (marks Mark.any)) envs :=
      .flatMap ((setAt_apart ctx.level content).forall_mem fun m hm c hc =>
        ih m hm (hn.of_within (.child hm .self)) c envs (hc ▸ henvs))
    obtain ⟨hrow, hcolumns⟩ := admits_list envs ctx.level
    rw [hn.marks_list, listMarks]
    split
    · exact .nil
    · cases attrs.orientation with
      | vertical =>
        exact ((hitems _ hcolumns).inEnv
          (allowed_opens_of_ne (by decide) (by decide) _)).inEnv ha.allowed_opens
      | horizontal => exact (hitems _ hrow).inEnv ha.allowed_opens
  | @listItem content _ _ ihIntro ihBody =>
    have hintro : Leads envs
        ((apart .parts (Node.introOf content)).flatMap (marks Mark.any)) envs :=
      .flatMap ((setAt_apart .parts _).forall_mem fun m hm c _ =>
        ihIntro m hm (hn.of_within (Node.below_of_mem_introOf hm).within) c envs trivial)
    have hbody : Leads envs
        ((stream ctx.level.inside (Node.bodyOf content)).flatMap (marks Mark.any)) envs :=
      .flatMap ((setAt_stream ctx.level.inside _).forall_mem fun m hm c hc =>
        ihBody m hm (hn.of_within (Node.below_of_mem_bodyOf hm).within) c envs (hc ▸ ha.body))
    rw [hn.marks_item]
    split
    · exact .nil
    · exact (hintro.append (.single ha.allowed_part rfl)).append hbody
  | unknown =>
    rw [node]
    exact .nil

/-- Which of the marks begin parts. -/
def Mark.isPart : Mark → Bool
  | .part _ => true
  | _ => false

theorem filter_isPart_listMarks (attrs : ListAttrs) (level : PartLevel) (ms : List Mark) :
    (listMarks Mark.any attrs level ms).filter Mark.isPart = ms.filter Mark.isPart := by
  cases h : attrs.orientation <;> simp [listMarks, inEnv, h, Mark.any, Mark.isPart]

/-- Markups that hold the commands of the items of their nodes hold together those of all. -/
theorem filter_isPart_flatMap {level : PartLevel} {nodes : List Node} {parts : List (List Char)}
    (h : List.Forall₂ (fun n s =>
      (marks Mark.any s).filter Mark.isPart = (itemLevels level n).map .part) nodes parts) :
    (parts.flatMap (marks Mark.any)).filter Mark.isPart =
      (itemLevelsOf level nodes).map .part := by
  induction h with
  | nil => rfl
  | cons hn _ ih =>
    rw [List.flatMap_cons, List.filter_append, hn, ih, itemLevelsOf, List.map_append]

/-- **The commands that begin parts are those of the items that are not blank**, in their order and
each at its level. -/
theorem InPlace.filter_isPart {p : Place} {n : Node} (hp : InPlace p n) (hn : MarkFree n)
    (ctx : Context) :
    (marks Mark.any (node ctx n)).filter Mark.isPart = (itemLevels ctx.level n).map .part := by
  induction hp generalizing ctx with
  | text t =>
    rw [(hn.hasMarks_text ctx).marks_eq]
    rfl
  | inlineFormula attrs =>
    rw [(hn.hasMarks_inline ctx).marks_eq]
    rfl
  | @paragraph content h ih =>
    have hnone (level : PartLevel) : itemLevelsOf level content = [] :=
      itemLevelsOf_eq_nil fun m hm => (h m hm).itemLevels_line level
    rw [hn.marks_paragraph, itemLevels, hnone, ← hnone .parts]
    exact filter_isPart_flatMap ((setAt_apart .parts content).forall₂ fun m hm c hc =>
      hc ▸ ih m hm (hn.of_within (.child hm .self)) c)
  | displayFormula attrs =>
    rw [(hn.hasMarks_display ctx).marks_eq]
    split <;> rfl
  | @orderedList attrs content h ih =>
    rw [hn.marks_list]
    split
    · next hb => rw [(InPlace.orderedList h).itemLevels_of_isBlank hb]; rfl
    · rw [filter_isPart_listMarks, itemLevels]
      exact filter_isPart_flatMap ((setAt_apart ctx.level content).forall₂ fun m hm c hc =>
        hc ▸ ih m hm (hn.of_within (.child hm .self)) c)
  | @listItem content hintro hbody ihIntro ihBody =>
    rw [hn.marks_item]
    split
    · next hb => rw [(InPlace.listItem hintro hbody).itemLevels_of_isBlank hb]; rfl
    · next hb =>
      have hlabel := filter_isPart_flatMap ((setAt_apart .parts (Node.introOf content)).forall₂
        fun m hm c hc => hc ▸ ihIntro m hm (hn.of_within (Node.below_of_mem_introOf hm).within) c)
      have hrest := filter_isPart_flatMap
        ((setAt_stream ctx.level.inside (Node.bodyOf content)).forall₂ fun m hm c hc =>
          hc ▸ ihBody m hm (hn.of_within (Node.below_of_mem_bodyOf hm).within) c)
      rw [itemLevelsOf_eq_nil fun n hn => (hintro n hn).itemLevels_line .parts] at hlabel
      rw [List.filter_append, List.filter_append, hlabel, hrest, itemLevels, if_neg hb,
        itemLevelsOf_append .subparts content,
        itemLevelsOf_eq_nil fun n hn => (hintro n hn).itemLevels_line .subparts]
      rfl
  | unknown => rw [node]; rfl

theorem count_part (ms : List Mark) (levels : List PartLevel)
    (h : ms.filter Mark.isPart = levels.map .part) (level : PartLevel) :
    ms.count (.part level) = levels.count level := by
  rw [← List.count_filter (p := Mark.isPart) rfl, h]
  exact List.count_map_of_injective levels Mark.part (fun _ _ => Mark.part.inj) level

/-- **The markup of a document of the editor keeps to the levels.**  Every mark in it stands where
it may, and it has as many commands of a level as the document has items of that level that are not
blank. -/
theorem disciplined_render (n : Node) (hs : OfSchema n) (hn : MarkFree n) :
    Disciplined (marks Mark.any (render n).toList) ∧
      ∀ level, (marks Mark.any (render n).toList).count (.part level) =
        (itemLevels .parts n).count level := by
  obtain @⟨content, h⟩ := hs
  have hset := setAt_stream .parts content
  have hmarks : marks Mark.any (render (.document content)).toList =
      (stream .parts content).flatMap (marks Mark.any) := by
    rw [render, String.toList_ofList, node,
      (hasMarks_document (hn.closed_parts hset fun m hm => .of_mem hm)).marks_eq]
  rw [hmarks]
  refine ⟨Leads.allowed (b := []) (.flatMap (hset.forall_mem fun m hm c hc => ?_)),
    count_part _ _ (filter_isPart_flatMap (hset.forall₂ fun m hm c hc => ?_))⟩
  · exact (h m hm).leads (hn.of_within (.child hm .self)) c [] (hc ▸ ⟨by simp, by simp⟩)
  · exact hc ▸ (h m hm).filter_isPart (hn.of_within (.child hm .self)) c

/-- A question with columns of parts, one of them introduced and with subparts, one of these blank,
and one part that is blank but for its introduction. -/
def nestedQuestion : Node :=
  .document
    [.paragraph [.text "Solve", .inline "x = 1"],
      .grid 2
        [.listItem
            [.listItemIntro [.text "Given"], .paragraph [.text "y"],
              .list [.listItem [.display "z"], .listItem [.unknown]]],
          .listItem [.listItemIntro [.text "Alone"]]]]

theorem disciplined_render_nestedQuestion :
    OfSchema nestedQuestion ∧ MarkFree nestedQuestion ∧
      Disciplined (marks Mark.any (render nestedQuestion).toList) ∧
      itemLevels .parts nestedQuestion = [.parts, .subparts] := by
  have hnone (p : Place) : ∀ n ∈ ([] : List Node), InPlace p n := fun n hn =>
    absurd hn List.not_mem_nil
  have hlist : InPlace .block (.list [.listItem [.display "z"], .listItem [.unknown]]) := by
    refine .orderedList (List.forall_mem_cons.mpr ⟨.listItem (hnone .line) ?_,
      List.forall_mem_singleton.mpr (.listItem (hnone .line) ?_)⟩)
    · exact List.forall_mem_singleton.mpr (.displayFormula _)
    · exact List.forall_mem_singleton.mpr (.unknown _)
  have hpart : InPlace .list (.listItem [.listItemIntro [.text "Given"], .paragraph [.text "y"],
      .list [.listItem [.display "z"], .listItem [.unknown]]]) :=
    .listItem (List.forall_mem_singleton.mpr (.text _)) (List.forall_mem_cons.mpr
      ⟨.paragraph (List.forall_mem_singleton.mpr (.text _)), List.forall_mem_singleton.mpr hlist⟩)
  have hblank : InPlace .list (.listItem [.listItemIntro [.text "Alone"]]) :=
    .listItem (List.forall_mem_singleton.mpr (.text _)) (hnone .block)
  have hs : OfSchema nestedQuestion := by
    refine .document (List.forall_mem_cons.mpr ⟨.paragraph ?_, List.forall_mem_singleton.mpr
      (.orderedList (List.forall_mem_cons.mpr ⟨hpart, List.forall_mem_singleton.mpr hblank⟩))⟩)
    exact List.forall_mem_cons.mpr ⟨.text _, List.forall_mem_singleton.mpr (.inlineFormula _)⟩
  have hn : MarkFree nestedQuestion := by decide
  exact ⟨hs, hn, (disciplined_render nestedQuestion hs hn).1, by decide⟩

end ExamPress.Markup
