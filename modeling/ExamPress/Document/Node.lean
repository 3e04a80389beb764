/-!
# Documents

A question, or the name of a unit, is a tree of rich text as an editor produces it.

## What is here

* `Document.Node` — the tree;
* `Document.FormulaAttrs`, `Document.ListAttrs`, `Document.Orientation` — the attributes of
  formulas and lists, with their defaults;
* `Node.children`, `Node.isParagraph`, `Node.isBlock` — questions about a node;
* `Node.inline`, `Node.display`, `Node.list`, `Node.grid` — the usual formulas and lists.
-/

set_option autoImplicit false

namespace ExamPress.Document

/-- The attributes of a formula: its source, and two flags that only the editor looks at. -/
structure FormulaAttrs where
  code : Option String := none
  display : Bool := false
  formOpen : Bool := false
  deriving DecidableEq

/-- How the items of a list are laid out. -/
inductive Orientation
  | vertical
  | horizontal
  deriving DecidableEq

/-- The attributes of a list. -/
structure ListAttrs where
  orientation : Orientation := .horizontal
  gridCols : UInt32 := 2
  deriving DecidableEq

/-- **A document tree.**  Any node may stand anywhere in it. -/
inductive Node
  | document (content : List Node)
  | paragraph (content : List Node)
  | text (text : String)
  /-- A formula within a line. -/
  | inlineFormula (attrs : FormulaAttrs)
  /-- A formula on a line of its own. -/
  | displayFormula (attrs : FormulaAttrs)
  | orderedList (attrs : ListAttrs) (content : List Node)
  | listItem (content : List Node)
  /-- The words that introduce the parts of a question, meant for the first place in an item. -/
  | listItemIntro (content : List Node)
  /-- A node of a kind that is not known here. -/
  | unknown

/-- The source of a formula, empty when there is none. -/
def FormulaAttrs.source (attrs : FormulaAttrs) : String := attrs.code.getD ""

namespace Node

mutual

/-- Are two documents the same? -/
def same : Node → Node → Bool
  | document a, document b | paragraph a, paragraph b | listItem a, listItem b
  | listItemIntro a, listItemIntro b => sameAll a b
  | text a, text b => a = b
  | inlineFormula a, inlineFormula b | displayFormula a, displayFormula b => a = b
  | orderedList a as, orderedList b bs => a = b && sameAll as bs
  | unknown, unknown => true
  | _, _ => false

/-- Are two lists of documents the same? -/
def sameAll : List Node → List Node → Bool
  | [], [] => true
  | a :: as, b :: bs => same a b && sameAll as bs
  | _, _ => false

end

mutual

theorem same_iff (a b : Node) : same a b = true ↔ a = b := by
  cases a <;> cases b <;> simp [same, sameAll_iff]

theorem sameAll_iff (as bs : List Node) : sameAll as bs = true ↔ as = bs := by
  cases as <;> cases bs <;> simp [sameAll, same_iff, sameAll_iff]

end

instance : DecidableEq Node := fun a b => decidable_of_iff _ (same_iff a b)

/-- The nodes directly below a node. -/
def children : Node → List Node
  | document content | paragraph content | orderedList _ content | listItem content
  | listItemIntro content => content
  | text _ | inlineFormula _ | displayFormula _ | unknown => []

/-- Is the node a paragraph? -/
def isParagraph : Node → Bool
  | paragraph _ => true
  | _ => false

/-- A block stands apart from what comes before it; text, formulas within a line and unknown nodes
do not. -/
def isBlock : Node → Bool
  | text _ | inlineFormula _ | unknown => false
  | _ => true

/-- A formula within a line. -/
def inline (code : String) : Node := .inlineFormula { code := some code }

/-- A formula on a line of its own. -/
def display (code : String) : Node := .displayFormula { code := some code, display := true }

/-- A list whose items follow one another. -/
def list (items : List Node) : Node := .orderedList {} items

/-- A list whose items stand in columns. -/
def grid (columns : UInt32) (items : List Node) : Node :=
  .orderedList { orientation := .vertical, gridCols := columns } items

end Node

end ExamPress.Document
