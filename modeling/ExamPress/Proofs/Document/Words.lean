import ExamPress.Document.PlainText
import ExamPress.Proofs.Document.Within
import ExamPress.Proofs.Text.Solid
import ExamPress.Proofs.Text.Trimmed

/-!
# The words of a document are its payloads

The words of a document are collected from left to right, with a space put in wherever a block
begins.  What can be seen of them are the payloads of its leaves one after the other, whatever
stands around the leaves.  The blanks at the ends are taken off last, and so a document has no words
just when all its payloads are blank.

## What is here

* `Node.payloads` — the payloads of a document in their order;
* `Node.solid_wordsAfterAll`, `Node.solid_wordsAfter` — what can be seen of the words collected so
  far, whatever they are;
* `Node.solid_plainText`, `Node.isTrimmed_plainText` — what can be seen of the words in the end, and
  that there is no blank at their ends;
* `Node.Wordless` — a document whose payloads are all blank, and `Node.plainText_eq_empty_iff`;
* `Node.plainText_losesBlanks` — the theorem.
-/

set_option autoImplicit false

namespace ExamPress.Document.Node

open Text (solid allBlank)

/-- **The payloads of a document**, in their order. -/
def payloads (n : Node) : List (List Char) := n.nodes.filterMap payload?

theorem nodesOf_eq_flatMap (content : List Node) : nodesOf content = content.flatMap nodes := by
  induction content with
  | nil => rfl
  | cons n content ih => rw [nodesOf, ih, List.flatMap_cons]

/-- The payload of the node itself, and those of its children. -/
theorem payloads_eq (n : Node) :
    n.payloads = n.payload?.toList ++ n.children.flatMap payloads := by
  rw [payloads, nodes_eq, List.filterMap_cons, nodesOf_eq_flatMap, List.filterMap_flatMap]
  cases n.payload? <;> rfl

theorem solid_spaced (words : List Char) (next : Node) : solid (spaced words next) = solid words := by
  have hspace : solid [' '] = [] := by decide
  rw [spaced]
  split
  · rw [Text.solid_append, hspace, List.append_nil]
  · rfl

/-- What several nodes add to the words so far, when each of them adds its payloads.  This has to be
known whatever the words are, because each node finds those of the nodes before it. -/
theorem solid_wordsAfterAll {nodes : List Node}
    (h : ∀ m ∈ nodes, ∀ words,
      solid (wordsAfter words m) = solid words ++ m.payloads.flatMap solid) (words : List Char) :
    solid (wordsAfterAll words nodes) = solid words ++ (nodes.flatMap payloads).flatMap solid := by
  induction nodes generalizing words with
  | nil => simp [wordsAfterAll]
  | cons m nodes ih =>
    obtain ⟨hm, hnodes⟩ := List.forall_mem_cons.mp h
    calc solid (wordsAfterAll words (m :: nodes))
        = solid (wordsAfter (spaced words m) m) ++ (nodes.flatMap payloads).flatMap solid := by
          rw [wordsAfterAll, ih hnodes]
      _ = solid words ++ m.payloads.flatMap solid ++ (nodes.flatMap payloads).flatMap solid := by
          rw [hm, solid_spaced]
      _ = solid words ++ ((m :: nodes).flatMap payloads).flatMap solid := by
          rw [List.flatMap_cons, List.flatMap_append, List.append_assoc]

/-- **What can be seen of the words** with those of a node added are the payloads of the node behind
what could be seen before. -/
theorem solid_wordsAfter (n : Node) (words : List Char) :
    solid (wordsAfter words n) = solid words ++ n.payloads.flatMap solid := by
  induction n using induction_below generalizing words with
  | step n ih =>
    rw [payloads_eq]
    cases n with
    | document content | paragraph content | orderedList attrs content | listItem content
    | listItemIntro content => exact solid_wordsAfterAll (fun m hm => ih m (.of_mem hm)) words
    | text | inlineFormula | displayFormula | unknown => simp [wordsAfter, payload?, children]

/-- **What can be seen of the words of a document** are its payloads. -/
theorem solid_plainText (n : Node) : solid n.plainText.toList = n.payloads.flatMap solid := by
  rw [plainText, String.toList_ofList, Text.solid_trim, solid_wordsAfter, Text.solid_nil,
    List.nil_append]

/-- **There is no blank at the ends of the words.** -/
theorem isTrimmed_plainText (n : Node) : Text.IsTrimmed n.plainText.toList := by
  rw [plainText, String.toList_ofList]
  exact Text.isTrimmed_trim _

/-! ## Documents without words -/

/-- **A document without words**: all of its payloads are blank. -/
def Wordless (n : Node) : Prop := ∀ m : Node, m.Within n → ∀ p ∈ m.payload?, allBlank p = true

instance (n : Node) : Decidable (Wordless n) :=
  inferInstanceAs (Decidable (∀ m : Node, m.Within n → ∀ p ∈ m.payload?, allBlank p = true))

theorem Wordless.of_within {m n : Node} (h : Wordless n) (hm : m.Within n) : Wordless m :=
  fun k hk => h k (hk.trans hm)

theorem wordless_iff_payloads {n : Node} : Wordless n ↔ ∀ p ∈ n.payloads, allBlank p = true := by
  simp only [Wordless, payloads, List.mem_filterMap, mem_nodes, Option.mem_def]
  constructor
  · rintro h p ⟨m, hm, hp⟩
    exact h m hm p hp
  · exact fun h m hm p hp => h p ⟨m, hm, hp⟩

/-- **The words of a document are empty exactly when it has none.** -/
theorem plainText_eq_empty_iff (n : Node) : n.plainText = "" ↔ n.Wordless := by
  calc n.plainText = "" ↔ solid n.plainText.toList = [] := (isTrimmed_plainText n).eq_empty_iff
    _ ↔ ∀ p ∈ n.payloads, solid p = [] := by rw [solid_plainText, List.flatMap_eq_nil_iff]
    _ ↔ n.Wordless := by simp only [wordless_iff_payloads, Text.solid_eq_nil_iff]

/-! ## The theorem -/

/-- **The words of a document lose blanks and nothing else.**  There is none left at their ends;
without blanks, they are what its leaves hold, one after the other in the order of the document,
whatever the leaves stand in; and there are no words exactly when all that the leaves hold is
blank. -/
theorem plainText_losesBlanks (n : Node) :
    Text.IsTrimmed n.plainText.toList ∧
      solid n.plainText.toList = solid n.payloads.flatten ∧
      (n.plainText = "" ↔ ∀ p ∈ n.payloads, allBlank p = true) := by
  refine ⟨isTrimmed_plainText n, ?_, ?_⟩
  · calc solid n.plainText.toList = n.payloads.flatMap solid := solid_plainText n
      _ = solid n.payloads.flatten := (Text.solid_flatten n.payloads).symm
  · exact (plainText_eq_empty_iff n).trans wordless_iff_payloads

end ExamPress.Document.Node
