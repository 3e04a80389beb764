import ExamPress.Markup.Render
import ExamPress.Proofs.Markup.Blank
import ExamPress.Proofs.Text.Lines
import ExamPress.Proofs.Text.Solid
import ExamPress.Proofs.Text.Trimmed

/-!
# What a name keeps

A name is set by pressing the markup of its nodes into one line.  That loses blanks and nothing
else.  As there are no blanks left at the ends of the line either, there is nothing in it exactly
when all the nodes are blank.

## What is here

* `mem_labelLines_iff` — the lines that are pressed into one;
* `solid_label` — what can be seen of a name is what can be seen of the markup of its nodes;
* `isTrimmed_label` — its ends;
* `label_eq_empty_iff` — when there is nothing;
* `label_losesBlanks` — the theorem.
-/

set_option autoImplicit false

namespace ExamPress.Markup

open Document (Node)
open Text (solid allBlank)

/-- **The lines of a name** are those of the markup of its nodes, without the blanks at their ends,
as far as anything is left of them. -/
theorem mem_labelLines_iff {n : Node} {line : List Char} :
    line ∈ labelLines n ↔
      line ≠ [] ∧ ∃ part ∈ apart .parts n.children, ∃ whole ∈ Text.lines part,
        Text.trim whole = line := by
  simp only [labelLines, List.mem_filter, List.mem_flatMap, List.mem_map, decide_eq_true_eq,
    and_comm]

/-- The lines of a name, and all lines of the markup of its nodes, show the same. -/
theorem flatMap_solid_labelLines (n : Node) :
    (labelLines n).flatMap solid = (apart .parts n.children).flatMap solid := by
  have hfilter (lines : List (List Char)) :
      (lines.filter (· ≠ [])).flatMap solid = lines.flatMap solid := by
    induction lines with
    | nil => rfl
    | cons line lines ih => by_cases h : line = [] <;> simpa [h] using ih
  rw [labelLines, hfilter, List.flatMap_assoc]
  congr 1
  funext part
  rw [List.flatMap_map]
  simp only [Text.solid_trim, Text.solid_lines]

/-- **What can be seen of a name** is what can be seen of the markup of its nodes, in their
order. -/
theorem solid_label (n : Node) :
    solid (label n).toList = (apart .parts n.children).flatMap solid := by
  rw [label, String.toList_ofList, Text.solid_join (by decide), flatMap_solid_labelLines]

/-- **There is no blank at the ends of a name.** -/
theorem isTrimmed_label (n : Node) : Text.IsTrimmed (label n).toList := by
  rw [label, String.toList_ofList]
  refine .join fun line hline => ?_
  obtain ⟨hne, part, -, whole, -, rfl⟩ := mem_labelLines_iff.mp hline
  exact ⟨hne, Text.isTrimmed_trim whole⟩

/-- There is nothing in a name exactly when nothing can be seen of its nodes. -/
theorem label_eq_empty_iff_allBlank (n : Node) :
    label n = "" ↔ ∀ part ∈ apart .parts n.children, allBlank part = true := by
  calc label n = "" ↔ solid (label n).toList = [] := (isTrimmed_label n).eq_empty_iff
    _ ↔ ∀ part ∈ apart .parts n.children, solid part = [] := by
        rw [solid_label, List.flatMap_eq_nil_iff]
    _ ↔ ∀ part ∈ apart .parts n.children, allBlank part = true := by
        simp only [Text.solid_eq_nil_iff]

/-- **There is nothing in a name exactly when its nodes are blank.** -/
theorem label_eq_empty_iff (n : Node) : label n = "" ↔ Node.areBlank n.children = true := by
  have hblank := all_allBlank_eq_areBlank
    ((setAt_apart .parts n.children).forall₂ fun m _ ctx _ => allBlank_node m ctx)
  rw [label_eq_empty_iff_allBlank, ← hblank, List.all_eq_true]

/-! ## The theorem -/

/-- Nodes that do not look at each other are set as each would be by itself. -/
theorem apart_eq_map (level : PartLevel) (nodes : List Node) :
    apart level nodes = nodes.map (node { level }) := by
  induction nodes with
  | nil => rfl
  | cons n nodes ih => rw [apart, ih, List.map_cons]

/-- **A name loses blanks and nothing else.**  There is none left at its ends; without blanks, it is
what is set for its nodes, one after the other; and there is nothing in it exactly when what is set
for each of them is blank. -/
theorem label_losesBlanks (n : Node) :
    Text.IsTrimmed (label n).toList ∧
      solid (label n).toList = solid (n.children.flatMap (node {})) ∧
      (label n = "" ↔ ∀ child ∈ n.children, allBlank (node {} child) = true) := by
  refine ⟨isTrimmed_label n, ?_, ?_⟩
  · calc solid (label n).toList = n.children.flatMap fun child => solid (node {} child) := by
          rw [solid_label, apart_eq_map, List.flatMap_map]
      _ = solid (n.children.flatMap (node {})) := List.filter_flatMap.symm
  · rw [label_eq_empty_iff_allBlank, apart_eq_map, List.forall_mem_map]

end ExamPress.Markup
