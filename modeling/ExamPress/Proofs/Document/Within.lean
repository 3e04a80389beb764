import ExamPress.Document.Node

/-!
# What stands in a document

Most statements about a document say something of every node that stands anywhere in it, and are
proved by induction on how deep it goes.

## What is here

* `Node.Within m n` — the node `m` is `n`, or stands somewhere in `n`;
* `Node.Below m n` — the node `m` stands somewhere in `n`;
* `Node.induction_below` — the induction, in which everything below a node is already known;
* `Node.nodes` — the list of all nodes within a node;
* `Node.payload?` — what a leaf holds; `Node.isDocument`, `Node.isIntroduction` — two kinds of
  nodes;
* `Node.introOf`, `Node.bodyOf` — the two parts of an item, and `Node.item_cases` which of them
  it has.
-/

set_option autoImplicit false

namespace ExamPress.Document.Node

/-- `Within m n` says that the node `m` is `n` itself or stands somewhere in it. -/
inductive Within (m : Node) : Node → Prop
  /-- A node is within itself. -/
  | self : Within m m
  /-- What is within a child is within the node. -/
  | child {c n : Node} (hc : c ∈ n.children) (h : Within m c) : Within m n

/-- `Below m n` says that the node `m` stands somewhere in `n`. -/
def Below (m n : Node) : Prop := ∃ c ∈ n.children, Within m c

theorem Within.trans {a b c : Node} (hab : Within a b) (hbc : Within b c) : Within a c := by
  induction hbc with
  | self => exact hab
  | child hc _ ih => exact .child hc ih

theorem Below.within {m n : Node} (h : Below m n) : Within m n := by
  obtain ⟨c, hc, hm⟩ := h
  exact .child hc hm

theorem Below.of_mem {c n : Node} (hc : c ∈ n.children) : Below c n := ⟨c, hc, .self⟩

theorem sizeOf_lt_of_mem_children {c n : Node} (hc : c ∈ n.children) : sizeOf c < sizeOf n := by
  cases n <;> simp only [children, List.not_mem_nil] at hc
  all_goals
    have h := List.sizeOf_lt_of_mem hc
    simp only [document.sizeOf_spec, paragraph.sizeOf_spec, orderedList.sizeOf_spec,
      listItem.sizeOf_spec, listItemIntro.sizeOf_spec]
    omega

theorem Within.sizeOf_le {m n : Node} (h : Within m n) : sizeOf m ≤ sizeOf n := by
  induction h with
  | self => exact Nat.le_refl _
  | child hc _ ih => exact Nat.le_of_lt (Nat.lt_of_le_of_lt ih (sizeOf_lt_of_mem_children hc))

theorem Below.sizeOf_lt {m n : Node} (h : Below m n) : sizeOf m < sizeOf n := by
  obtain ⟨c, hc, hm⟩ := h
  exact Nat.lt_of_le_of_lt hm.sizeOf_le (sizeOf_lt_of_mem_children hc)

/-- **Induction over a document.**  Everything below a node may be assumed, not only its children:
an item is set together with the children of its introduction. -/
@[elab_as_elim]
theorem induction_below {motive : Node → Prop}
    (step : ∀ n, (∀ m, Below m n → motive m) → motive n) (n : Node) : motive n := by
  suffices h : ∀ k n, sizeOf n < k → motive n from h _ n (Nat.lt_succ_self _)
  intro k
  induction k with
  | zero => exact fun n hn => absurd hn (Nat.not_lt_zero _)
  | succ k ih =>
    intro n hn
    refine step n fun m hm => ih m ?_
    have hlt := hm.sizeOf_lt
    omega

mutual

/-- All that is within a node, the node first. -/
def nodes : Node → List Node
  | document content => document content :: nodesOf content
  | paragraph content => paragraph content :: nodesOf content
  | orderedList attrs content => orderedList attrs content :: nodesOf content
  | listItem content => listItem content :: nodesOf content
  | listItemIntro content => listItemIntro content :: nodesOf content
  | leaf => [leaf]

/-- All that is within the nodes of a list. -/
def nodesOf : List Node → List Node
  | [] => []
  | n :: content => nodes n ++ nodesOf content

end

theorem nodes_eq (n : Node) : n.nodes = n :: nodesOf n.children := by
  cases n <;> rfl

theorem mem_nodesOf {m : Node} {content : List Node} :
    m ∈ nodesOf content ↔ ∃ c ∈ content, m ∈ c.nodes := by
  induction content with
  | nil => simp [nodesOf]
  | cons c content ih => simp [nodesOf, ih]

theorem mem_nodes {m n : Node} : m ∈ n.nodes ↔ Within m n := by
  induction n using induction_below with
  | step n ih =>
    rw [nodes_eq, List.mem_cons, mem_nodesOf]
    constructor
    · rintro (rfl | ⟨c, hc, hm⟩)
      · exact .self
      · exact .child hc ((ih c (.of_mem hc)).mp hm)
    · rintro (_ | ⟨hc, hm⟩)
      · exact .inl rfl
      · exact .inr ⟨_, hc, (ih _ (.of_mem hc)).mpr hm⟩

/-- What is asked of everything within a node can be decided. -/
instance (n : Node) (P : Node → Prop) [DecidablePred P] : Decidable (∀ m, Within m n → P m) :=
  decidable_of_iff (∀ m ∈ n.nodes, P m) (by simp only [mem_nodes])

/-- The characters that a leaf holds: those of a text, or the source of a formula. -/
def payload? : Node → Option (List Char)
  | text t => some t.toList
  | inlineFormula attrs | displayFormula attrs => some attrs.source.toList
  | _ => none

/-- Is the node a document? -/
def isDocument : Node → Bool
  | document _ => true
  | _ => false

/-- Is the node an introduction? -/
def isIntroduction : Node → Bool
  | listItemIntro _ => true
  | _ => false

/-! ## The two parts of an item -/

/-- The words that introduce an item: what stands in an introduction in the first place. -/
def introOf : List Node → List Node
  | listItemIntro intro :: _ => intro
  | _ => []

/-- What an item says: its content without an introduction in the first place. -/
def bodyOf : List Node → List Node
  | listItemIntro _ :: content => content
  | content => content

/-- An item begins with an introduction, or it is all body. -/
theorem item_cases (content : List Node) :
    (∃ intro rest, content = listItemIntro intro :: rest ∧ introOf content = intro ∧
        bodyOf content = rest) ∨
      ((∀ intro rest, content ≠ listItemIntro intro :: rest) ∧ introOf content = [] ∧
        bodyOf content = content) := by
  rw [introOf.eq_def, bodyOf.eq_def]
  split
  · next intro rest => exact .inl ⟨intro, rest, rfl, rfl, rfl⟩
  · next hne => exact .inr ⟨hne, rfl, rfl⟩

theorem below_of_mem_bodyOf {c : Node} {content : List Node} (hc : c ∈ bodyOf content) :
    Below c (listItem content) := by
  refine .of_mem ?_
  rcases item_cases content with ⟨intro, rest, rfl, -, hbody⟩ | ⟨-, -, hbody⟩
  · exact List.mem_cons_of_mem _ (hbody ▸ hc)
  · exact hbody ▸ hc

theorem below_of_mem_introOf {c : Node} {content : List Node} (hc : c ∈ introOf content) :
    Below c (listItem content) := by
  rcases item_cases content with ⟨intro, rest, rfl, hintro, -⟩ | ⟨-, hintro, -⟩
  · exact ⟨listItemIntro intro, List.mem_cons_self, (Below.of_mem (hintro ▸ hc)).within⟩
  · exact absurd (hintro ▸ hc) List.not_mem_nil

end ExamPress.Document.Node
