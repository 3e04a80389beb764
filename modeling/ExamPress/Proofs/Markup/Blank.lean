import ExamPress.Markup.Render
import ExamPress.Proofs.Document.Within
import Mathlib.Data.List.Forall2

/-!
# What is set blank

Blank content leaves no markup.  Whether a node is blank can be read off the tree alone:
`Document.Node.isBlank` looks at the payloads of its leaves and at which words are introductions,
and `Markup.allBlank_node` says that the markup of a node is blank exactly when the node is,
whatever is around it.

## What is here

* `Markup.SetAt` — the markup of several nodes is a list of markups, one for each node, in the
  order of the nodes;
* `Markup.node_listItem` — the markup of an item from its introduction and its body;
* `Document.Node.isBlank`, `Document.Node.areBlank` — a blank node, and blank nodes;
* `Markup.allBlank_join`, `Markup.allBlank_paragraph`, `Markup.allBlank_list`,
  `Markup.allBlank_item` — when the markup of one node is blank;
* `Markup.allBlank_node` — when the markup of a node is blank;
* `Markup.blank_leavesNoMarkup` — the theorem: what is blank leaves nothing at all, a text apart.
-/

set_option autoImplicit false

namespace ExamPress

open Document (Node ListAttrs)

/-! ## Blank nodes -/

namespace Document.Node

mutual

/-- **A blank node.**  Leaves are blank when their payload is, and most other nodes when all their
children are.  The introduction of an item does not count; by itself it is blank, as an unknown
node is.  A document is never blank, because it is set as a question. -/
def isBlank : Node → Bool
  | document _ => false
  | paragraph content | orderedList _ content => areBlank content
  | text t => Text.allBlank t.toList
  | inlineFormula attrs | displayFormula attrs => Text.allBlank attrs.source.toList
  | listItem (listItemIntro _ :: content) => areBlank content
  | listItem content => areBlank content
  | listItemIntro _ | unknown => true

/-- Are all nodes of a list blank? -/
def areBlank : List Node → Bool
  | [] => true
  | n :: nodes => isBlank n && areBlank nodes

end

theorem areBlank_iff (nodes : List Node) : areBlank nodes = true ↔ ∀ n ∈ nodes, n.isBlank := by
  induction nodes with
  | nil => simp [areBlank]
  | cons n nodes ih => simp [areBlank, ih]

theorem isBlank_listItem (content : List Node) :
    isBlank (listItem content) = areBlank (bodyOf content) := by
  rcases item_cases content with ⟨intro, rest, rfl, -, hbody⟩ | ⟨hne, -, hbody⟩
  · rw [hbody, isBlank]
  · rw [hbody, isBlank]
    exact hne

end Document.Node

namespace Markup

/-! ## The markup of several nodes -/

/-- The texts are the markups of the nodes, one for each and in their order, at the same level. -/
def SetAt (level : PartLevel) : List Node → List (List Char) → Prop :=
  List.Forall₂ fun n s => ∃ ctx : Context, ctx.level = level ∧ s = node ctx n

/-- Nodes below one another are set one by one; each is told whether a paragraph comes next. -/
theorem setAt_stream (level : PartLevel) :
    ∀ nodes : List Node, SetAt level nodes (stream level nodes)
  | [] => .nil
  | _ :: nodes => .cons ⟨_, rfl, rfl⟩ (setAt_stream level nodes)

/-- Nodes that do not look at each other are set one by one. -/
theorem setAt_apart (level : PartLevel) :
    ∀ nodes : List Node, SetAt level nodes (apart level nodes)
  | [] => .nil
  | _ :: nodes => .cons ⟨_, rfl, rfl⟩ (setAt_apart level nodes)

/-- What holds between each node and its markup, whatever is around it. -/
theorem SetAt.forall₂ {R : Node → List Char → Prop} {level : PartLevel} {nodes : List Node}
    {parts : List (List Char)} (h : SetAt level nodes parts)
    (hR : ∀ n ∈ nodes, ∀ ctx : Context, ctx.level = level → R n (node ctx n)) :
    List.Forall₂ R nodes parts := by
  induction h with
  | nil => exact .nil
  | @cons n s nodes parts hs _ ih =>
    obtain ⟨ctx, hctx, rfl⟩ := hs
    exact .cons (hR n List.mem_cons_self ctx hctx)
      (ih fun m hm => hR m (List.mem_cons_of_mem n hm))

/-- What holds of the markup of each node, whatever is around it. -/
theorem SetAt.forall_mem {P : List Char → Prop} {level : PartLevel} {nodes : List Node}
    {parts : List (List Char)} (h : SetAt level nodes parts)
    (hP : ∀ n ∈ nodes, ∀ ctx : Context, ctx.level = level → P (node ctx n)) :
    ∀ s ∈ parts, P s := by
  induction h with
  | nil => exact fun s hs => absurd hs List.not_mem_nil
  | @cons n s nodes parts hs _ ih =>
    obtain ⟨ctx, hctx, rfl⟩ := hs
    exact List.forall_mem_cons.mpr ⟨hP n List.mem_cons_self ctx hctx,
      ih fun m hm => hP m (List.mem_cons_of_mem n hm)⟩

/-- **The markup of an item**, from its two parts.  Without an introduction the words that
introduce it are an empty paragraph. -/
theorem node_listItem (ctx : Context) (content : List Node) :
    node ctx (.listItem content) =
      item ctx.level (paragraph false (apart .parts (Node.introOf content)))
        (Text.join ['\n'] (stream ctx.level.inside (Node.bodyOf content))) := by
  rcases Node.item_cases content with ⟨intro, rest, rfl, hintro, hbody⟩ | ⟨hne, hintro, hbody⟩
  · rw [hintro, hbody, node]
  · rw [hintro, hbody, node]
    · rfl
    · exact hne

/-! ## When markup is blank -/

theorem beginEnv_eq (name : List Char) :
    beginEnv name =
      '\\' :: 'b' :: 'e' :: 'g' :: 'i' :: 'n' :: '\x7b' :: (name ++ ['\x7d']) := rfl

theorem allBlank_join {sep : List Char} (hsep : Text.allBlank sep = true)
    (parts : List (List Char)) :
    Text.allBlank (Text.join sep parts) = parts.all Text.allBlank := by
  fun_induction Text.join sep parts with
  | case1 => rfl
  | case2 p => simp
  | case3 p q ps ih => simp [hsep, ih]

theorem allBlank_beginEnv (name : List Char) : Text.allBlank (beginEnv name) = false := by
  have hslash : Text.isBlank '\\' = false := by decide
  rw [beginEnv_eq, Text.allBlank_cons, hslash, Bool.false_and]

theorem allBlank_command (level : PartLevel) : Text.allBlank level.command = false := by
  cases level <;> decide

theorem allBlank_inlineFormula (code : List Char) :
    Text.allBlank (inlineFormula code) = Text.allBlank code := by
  have hdollar : Text.allBlank ['$'] = false := by decide
  cases h : Text.allBlank code <;>
    simp [inlineFormula, h, Text.allBlank_append, hdollar]

theorem allBlank_displayFormula (code : List Char) :
    Text.allBlank (displayFormula code) = Text.allBlank code := by
  cases h : Text.allBlank code with
  | true => simp [displayFormula, h]
  | false =>
    simp only [displayFormula, h, Bool.false_eq_true, if_false]
    split
    · exact h
    · simp only [Text.allBlank_append, allBlank_beginEnv, Bool.false_and]

theorem allBlank_paragraph (next : Bool) (parts : List (List Char)) :
    Text.allBlank (paragraph next parts) = parts.all Text.allBlank := by
  have hblank : Text.allBlank [' '] = true := by decide
  rw [← allBlank_join hblank]
  cases h : Text.allBlank (Text.join [' '] parts) with
  | true => simp [paragraph, h]
  | false => cases next <;> simp [paragraph, h]

/-- The indented items of a list. -/
theorem allBlank_indented (items : List (List Char)) :
    Text.allBlank (Text.join ['\n'] (items.map ([' ', ' '] ++ ·))) = items.all Text.allBlank := by
  have hline : Text.allBlank ['\n'] = true := by decide
  have hblanks : Text.allBlank [' ', ' '] = true := by decide
  have hindent : (Text.allBlank ∘ fun s => [' ', ' '] ++ s) = Text.allBlank := by
    funext s
    simp only [Function.comp_apply, Text.allBlank_append, hblanks, Bool.true_and]
  rw [allBlank_join hline, List.all_map, hindent]

theorem allBlank_list (attrs : ListAttrs) (level : PartLevel) (items : List (List Char)) :
    Text.allBlank (list attrs level items) = items.all Text.allBlank := by
  cases h : items.all Text.allBlank with
  | true => simp only [list, allBlank_indented, h, if_true, Text.allBlank_nil]
  | false =>
    simp only [list, allBlank_indented, h, Bool.false_eq_true, if_false, Text.allBlank_append,
      allBlank_beginEnv, Bool.false_and]

theorem allBlank_item (level : PartLevel) (intro body : List Char) :
    Text.allBlank (item level intro body) = Text.allBlank body := by
  cases h : Text.allBlank body with
  | true => simp [item, h]
  | false =>
    simp only [item, h, Bool.false_eq_true, if_false]
    split <;> simp only [Text.allBlank_append, allBlank_command, Bool.false_and, Bool.and_false]

/-! ## The theorem -/

/-- Markups that are blank as their nodes are, one by one, are blank together when all the nodes
are. -/
theorem all_allBlank_eq_areBlank {nodes : List Node} {parts : List (List Char)}
    (h : List.Forall₂ (fun n s => Text.allBlank s = n.isBlank) nodes parts) :
    parts.all Text.allBlank = Node.areBlank nodes := by
  induction h with
  | nil => rfl
  | cons hn _ ih => rw [List.all_cons, Node.areBlank, hn, ih]

/-- **The markup of a node is blank exactly when the node is**, in every context. -/
theorem allBlank_node (n : Node) (ctx : Context) : Text.allBlank (node ctx n) = n.isBlank := by
  induction n using Node.induction_below generalizing ctx with
  | step n ih =>
    have hblank {level : PartLevel} {nodes : List Node} {parts : List (List Char)}
        (hset : SetAt level nodes parts) (hsub : ∀ m ∈ nodes, m.Below n) :
        parts.all Text.allBlank = Node.areBlank nodes :=
      all_allBlank_eq_areBlank (hset.forall₂ fun m hm ctx _ => ih m (hsub m hm) ctx)
    cases n with
    | document content =>
      have hmark : Text.allBlank questionMark = false := by decide
      rw [node, Text.allBlank_append, hmark, Bool.false_and, Node.isBlank]
    | paragraph content =>
      rw [node, allBlank_paragraph, hblank (setAt_apart _ content) fun m hm => .of_mem hm,
        Node.isBlank]
    | text t => rw [node, Node.isBlank]
    | inlineFormula attrs => rw [node, allBlank_inlineFormula, Node.isBlank]
    | displayFormula attrs => rw [node, allBlank_displayFormula, Node.isBlank]
    | orderedList attrs content =>
      rw [node, allBlank_list, hblank (setAt_apart _ content) fun m hm => .of_mem hm,
        Node.isBlank]
    | listItem content =>
      have hline : Text.allBlank ['\n'] = true := by decide
      rw [node_listItem, allBlank_item, allBlank_join hline,
        hblank (setAt_stream _ _) fun m hm => Node.below_of_mem_bodyOf hm, Node.isBlank_listItem]
    | listItemIntro content => rw [node, Node.isBlank, Text.allBlank_nil]
    | unknown => rw [node, Node.isBlank, Text.allBlank_nil]

/-! ## Blank markup is empty -/

theorem inlineFormula_eq_nil {code : List Char} (h : Text.allBlank (inlineFormula code) = true) :
    inlineFormula code = [] := by
  rw [allBlank_inlineFormula] at h
  rw [inlineFormula, if_pos h]

theorem displayFormula_eq_nil {code : List Char} (h : Text.allBlank (displayFormula code) = true) :
    displayFormula code = [] := by
  rw [allBlank_displayFormula] at h
  rw [displayFormula, if_pos h]

theorem paragraph_eq_nil {next : Bool} {parts : List (List Char)}
    (h : Text.allBlank (paragraph next parts) = true) : paragraph next parts = [] := by
  have hblank : Text.allBlank [' '] = true := by decide
  rw [allBlank_paragraph, ← allBlank_join hblank] at h
  exact if_pos h

theorem list_eq_nil {attrs : ListAttrs} {level : PartLevel} {items : List (List Char)}
    (h : Text.allBlank (list attrs level items) = true) : list attrs level items = [] := by
  rw [allBlank_list, ← allBlank_indented] at h
  exact if_pos h

theorem item_eq_nil {level : PartLevel} {intro body : List Char}
    (h : Text.allBlank (item level intro body) = true) : item level intro body = [] := by
  rw [allBlank_item] at h
  rw [item, if_pos h]

/-- Only a text is set as the blanks that it holds; the markup of any other node is empty as soon
as it is blank. -/
theorem node_eq_nil_of_allBlank {n : Node} {ctx : Context} (hn : ∀ t, n ≠ .text t)
    (h : Text.allBlank (node ctx n) = true) : node ctx n = [] := by
  cases n with
  | document content =>
    rw [allBlank_node, Node.isBlank] at h
    exact absurd h Bool.false_ne_true
  | paragraph content =>
    rw [node] at h ⊢
    exact paragraph_eq_nil h
  | text t => exact absurd rfl (hn t)
  | inlineFormula attrs =>
    rw [node] at h ⊢
    exact inlineFormula_eq_nil h
  | displayFormula attrs =>
    rw [node] at h ⊢
    exact displayFormula_eq_nil h
  | orderedList attrs content =>
    rw [node] at h ⊢
    exact list_eq_nil h
  | listItem content =>
    rw [node_listItem] at h ⊢
    exact item_eq_nil h
  | listItemIntro content => rw [node]
  | unknown => rw [node]

/-- **What is blank leaves no markup, and what is not is never lost.**  In every context the markup
of a node is blank exactly when the node is, and that of a blank node is empty unless the node is a
text: no environment, no command and no delimiter is ever set around nothing. -/
theorem blank_leavesNoMarkup (n : Node) (ctx : Context) :
    (Text.allBlank (node ctx n) = true ↔ n.isBlank = true) ∧
      (n.isBlank = true → (∀ t, n ≠ .text t) → node ctx n = []) := by
  have hblank : Text.allBlank (node ctx n) = true ↔ n.isBlank = true := by rw [allBlank_node]
  exact ⟨hblank, fun h hn => node_eq_nil_of_allBlank hn (hblank.mpr h)⟩

/-- A list whose only item has an introduction and nothing to introduce. -/
theorem blank_leavesNoMarkup_introducedNothing :
    let n : Node := .grid 2 [.listItem [.listItemIntro [.text "x"], .paragraph [.inline " "]]]
    n.isBlank = true ∧ (∀ t, n ≠ .text t) ∧ node { beforeParagraph := true } n = [] := by
  intro n
  have hblank : n.isBlank = true := by decide
  have hlist : ∀ t, n ≠ .text t := fun t h => Node.noConfusion h
  exact ⟨hblank, hlist, (blank_leavesNoMarkup n _).2 hblank hlist⟩

end Markup

end ExamPress
