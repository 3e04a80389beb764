import ExamPress.Markup.Render
import ExamPress.Proofs.Markup.Blank

/-!
# Looking ahead is choosing a separator

A paragraph ends in a line break of its own when a paragraph comes next, and so every node has to be
told what comes next.  Here the same markup is made without telling it: each node is set by itself,
and where nodes are set below one another, what stands between two of them is chosen afterwards,
from the two nodes and from whether the first left any markup.

The two agree because the line break is the last thing in the markup of a paragraph, so that it may
as well be put in front of the separator.  What has to be kept in mind is that a blank paragraph
adds no line break, although a blank paragraph that comes next calls for one.

## What is here

* `separator` — what stands between two nodes below one another;
* `alone`, `alones`, `below` — the markup of a node by itself, of several nodes, and of nodes below
  one another;
* `lineAfter` — what looking ahead adds to the markup of a node;
* `node_eq_alone` — the markup of a node is that of the node by itself with this addition;
* `render_eq_alone` — the theorem.
-/

set_option autoImplicit false

namespace ExamPress.Markup

open ExamPress.Document

/-! ## Setting without looking ahead -/

/-- What stands between a node, set as `text`, and the next one: an empty line between two
paragraphs of which the first is not blank, and otherwise the end of the line. -/
def separator (n : Node) (text : List Char) (next : Node) : List Char :=
  if n.isParagraph && !Text.allBlank text && next.isParagraph then ['\n', '\n'] else ['\n']

/-- Parts that stand side by side, if they are not blank together. -/
def sideBySide (parts : List (List Char)) : List Char :=
  let text := Text.join [' '] parts
  if Text.allBlank text then [] else text

mutual

/-- **The markup of a node by itself**, which is told its level and nothing about its
neighbours. -/
def alone (level : PartLevel) : Node → List Char
  | .document content => questionMark ++ below .parts content
  | .paragraph content => sideBySide (alones .parts content)
  | .text t => t.toList
  | .inlineFormula attrs => inlineFormula attrs.source.toList
  | .displayFormula attrs => displayFormula attrs.source.toList
  | .orderedList attrs content => list attrs level (alones level content)
  | .listItem (.listItemIntro intro :: content) =>
    item level (sideBySide (alones .parts intro)) (below level.inside content)
  | .listItem content => item level [] (below level.inside content)
  | .listItemIntro _ => []
  | .unknown => []

/-- The markup of nodes, each by itself. -/
def alones (level : PartLevel) : List Node → List (List Char)
  | [] => []
  | n :: nodes => alone level n :: alones level nodes

/-- **Nodes below one another**, each by itself, with a separator between each two. -/
def below (level : PartLevel) : List Node → List Char
  | [] => []
  | [n] => alone level n
  | n :: next :: nodes =>
    alone level n ++ separator n (alone level n) next ++ below level (next :: nodes)

end

/-- A name on one line, from the markup of its nodes by themselves. -/
def labelAlone (n : Node) : String :=
  String.ofList (Text.join [' ']
    (((alones .parts n.children).flatMap fun part => (Text.lines part).map Text.trim).filter
      (· ≠ [])))

theorem alone_listItem (level : PartLevel) (content : List Node) :
    alone level (.listItem content) =
      item level (sideBySide (alones .parts (Node.introOf content)))
        (below level.inside (Node.bodyOf content)) := by
  rcases Node.item_cases content with ⟨intro, rest, rfl, hintro, hbody⟩ | ⟨hne, hintro, hbody⟩
  · rw [hintro, hbody, alone]
  · rw [hintro, hbody, alone]
    · rfl
    · exact hne

/-! ## What looking ahead adds -/

/-- **What looking ahead adds to the markup of a node**: a line break after a paragraph that is not
blank, if a paragraph comes next. -/
def lineAfter (ctx : Context) (n : Node) : List Char :=
  if ctx.beforeParagraph && n.isParagraph && !Text.allBlank (alone ctx.level n) then ['\n'] else []

/-- Nothing is added where nothing is said about what comes next. -/
theorem lineAfter_level (level : PartLevel) (n : Node) : lineAfter { level } n = [] := rfl

/-- Nothing is added to a node that is no paragraph. -/
theorem lineAfter_of_not_paragraph {n : Node} (h : n.isParagraph = false) (ctx : Context) :
    lineAfter ctx n = [] := by
  rw [lineAfter, h, Bool.and_false, Bool.false_and]
  rfl

/-- The line break of a paragraph goes over into the separator. -/
theorem lineAfter_append (level : PartLevel) (n next : Node) :
    lineAfter { level, beforeParagraph := next.isParagraph } n ++ ['\n'] =
      separator n (alone level n) next := by
  simp only [lineAfter, separator]
  cases n.isParagraph <;> cases next.isParagraph <;> cases Text.allBlank (alone level n) <;> rfl

theorem paragraph_eq_sideBySide (next : Bool) (parts : List (List Char)) :
    paragraph next parts =
      sideBySide parts ++ if next && !Text.allBlank (sideBySide parts) then ['\n'] else [] := by
  cases h : Text.allBlank (Text.join [' '] parts) with
  | true => simp [paragraph, sideBySide, h]
  | false => cases next <;> simp [paragraph, sideBySide, h]

section

variable {nodes : List Node}
  (h : ∀ n ∈ nodes, ∀ ctx : Context, node ctx n = alone ctx.level n ++ lineAfter ctx n)

include h

/-- Nodes that do not look at each other are set as they are by themselves. -/
theorem apart_eq_alones_of_forall (level : PartLevel) : apart level nodes = alones level nodes := by
  induction nodes with
  | nil => rfl
  | cons n nodes ih =>
    obtain ⟨hn, hnodes⟩ := List.forall_mem_cons.mp h
    rw [apart, alones, hn, lineAfter_level, List.append_nil, ih hnodes]

/-- **Nodes that look at what comes next** are set as they are by themselves, with the separators
chosen afterwards. -/
theorem join_stream_of_forall (level : PartLevel) :
    Text.join ['\n'] (stream level nodes) = below level nodes := by
  induction nodes with
  | nil => rfl
  | cons n nodes ih =>
    obtain ⟨hn, hnodes⟩ := List.forall_mem_cons.mp h
    cases nodes with
    | nil =>
      -- nothing comes after the last node
      change node { level, beforeParagraph := false } n = alone level n
      rw [hn, lineAfter_level, List.append_nil]
    | cons next nodes =>
      calc Text.join ['\n'] (stream level (n :: next :: nodes))
          = node { level, beforeParagraph := next.isParagraph } n ++ ['\n'] ++
              Text.join ['\n'] (stream level (next :: nodes)) := rfl
        _ = alone level n ++
              (lineAfter { level, beforeParagraph := next.isParagraph } n ++ ['\n']) ++
              below level (next :: nodes) := by
            rw [hn, ih hnodes, List.append_assoc (alone level n)]
        _ = below level (n :: next :: nodes) := by rw [lineAfter_append, below]

end

/-! ## The theorem -/

/-- **The markup of a node is that of the node by itself**, and a line break where looking ahead
adds one. -/
theorem node_eq_alone (n : Node) (ctx : Context) :
    node ctx n = alone ctx.level n ++ lineAfter ctx n := by
  induction n using Node.induction_below generalizing ctx with
  | step n ih =>
    have hapart (level : PartLevel) (nodes : List Node) (hsub : ∀ m ∈ nodes, m.Below n) :
        apart level nodes = alones level nodes :=
      apart_eq_alones_of_forall (fun m hm => ih m (hsub m hm)) level
    have hstream (level : PartLevel) (nodes : List Node) (hsub : ∀ m ∈ nodes, m.Below n) :
        Text.join ['\n'] (stream level nodes) = below level nodes :=
      join_stream_of_forall (fun m hm => ih m (hsub m hm)) level
    cases n with
    | paragraph content =>
      rw [node, hapart _ content fun m hm => .of_mem hm, paragraph_eq_sideBySide]
      simp only [lineAfter, alone, Node.isParagraph, Bool.and_true]
    | document content =>
      rw [lineAfter_of_not_paragraph rfl, List.append_nil, node, alone,
        hstream _ content fun m hm => .of_mem hm]
    | orderedList attrs content =>
      rw [lineAfter_of_not_paragraph rfl, List.append_nil, node, alone,
        hapart _ content fun m hm => .of_mem hm]
    | listItem content =>
      have hintro : paragraph false (apart .parts (Node.introOf content)) =
          sideBySide (alones .parts (Node.introOf content)) := by
        rw [hapart _ _ fun m hm => Node.below_of_mem_introOf hm, paragraph_eq_sideBySide,
          Bool.false_and]
        exact List.append_nil _
      rw [lineAfter_of_not_paragraph rfl, List.append_nil, node_listItem, alone_listItem, hintro,
        hstream _ _ fun m hm => Node.below_of_mem_bodyOf hm]
    | text | inlineFormula | displayFormula | listItemIntro | unknown =>
      rw [lineAfter_of_not_paragraph rfl, List.append_nil, node, alone]

theorem apart_eq_alones (level : PartLevel) (nodes : List Node) :
    apart level nodes = alones level nodes :=
  apart_eq_alones_of_forall (fun n _ => node_eq_alone n) level

/-- **Looking ahead is choosing a separator.**  A question is set as it is without looking ahead,
where what stands between two nodes below one another depends on the two and on whether the first
left any markup; so is a name.  A node in any place is set as by itself, and looking ahead adds to a
paragraph that is not blank, before a paragraph, a line break, and nothing to any other node. -/
theorem render_eq_alone (n : Node) :
    render n = String.ofList (alone .parts n) ∧ label n = labelAlone n ∧
      ∀ ctx : Context, node ctx n = alone ctx.level n ++ lineAfter ctx n := by
  refine ⟨?_, ?_, node_eq_alone n⟩
  · rw [render, node_eq_alone, lineAfter_level, List.append_nil]
  · rw [label, labelLines, labelAlone, apart_eq_alones]

/-- Three paragraphs of which the second is blank: it gets an empty line before it and none after
it. -/
example : alone .parts (.document
      [.paragraph [.text "a"], .paragraph [.text " "], .paragraph [.text "b"]]) =
    "\\question a\n\n\nb".toList := by decide

end ExamPress.Markup
