import ExamPress.Document.Node

/-!
# Kinds of nodes and the names they go by

Where a document is stored, a node names its kind by a tag.  Three kinds have a second tag, which
editors use; a tag that is not known stands for an unknown node.

## What is here

* `Document.Kind` — the kinds, in the order in which they are numbered;
* `Document.Kind.tag`, `Document.Kind.ofTag`, `Document.Kind.ofIndex` — their names and numbers;
* `Document.Field` — the fields that nodes have, and `Document.Kind.fields` which kind has which.
-/

set_option autoImplicit false

namespace ExamPress.Document

/-- The kinds of nodes. -/
inductive Kind
  | document
  | paragraph
  | text
  | inlineFormula
  | displayFormula
  | orderedList
  | listItem
  | listItemIntro
  | unknown
  deriving DecidableEq

/-- The fields of nodes.  The attributes of formulas and those of lists are different fields with
the same name. -/
inductive Field
  | content
  | text
  | formulaAttrs
  | listAttrs
  deriving DecidableEq

/-- The name under which a field is stored. -/
def Field.key : Field → String
  | content => "content"
  | text => "text"
  | formulaAttrs | listAttrs => "attrs"

/-- The name under which the kind of a node is stored. -/
def tagKey : String := "type"

namespace Kind

/-- The name that is written for a kind. -/
def tag : Kind → String
  | document => "document"
  | paragraph => "paragraph"
  | text => "text"
  | inlineFormula => "inlineFormula"
  | displayFormula => "displayFormula"
  | orderedList => "orderedList"
  | listItem => "listItem"
  | listItemIntro => "listItemIntro"
  | unknown => "unknown"

/-- The second name that three of the kinds have. -/
def otherTag? : Kind → Option String
  | document => some "doc"
  | inlineFormula => some "inlineLatex"
  | displayFormula => some "displayLatex"
  | _ => none

/-- The kinds that are known. -/
def known : List Kind :=
  [document, paragraph, text, inlineFormula, displayFormula, orderedList, listItem, listItemIntro]

/-- The kind that goes by a name. -/
def ofTag (name : String) : Kind :=
  (known.find? fun k => k.tag = name || k.otherTag? = some name).getD unknown

/-- The kind with a number. -/
def ofIndex (n : Nat) : Kind := known[n]?.getD unknown

/-- The fields of a kind, in order. -/
def fields : Kind → List Field
  | document | paragraph | listItem | listItemIntro => [.content]
  | text => [.text]
  | inlineFormula | displayFormula => [.formulaAttrs]
  | orderedList => [.listAttrs, .content]
  | unknown => []

/-- The name of a kind is read back. -/
theorem ofTag_tag (k : Kind) : ofTag k.tag = k := by
  cases k <;> decide

end Kind

/-- The kind of a node. -/
def Node.kind : Node → Kind
  | .document _ => .document
  | .paragraph _ => .paragraph
  | .text _ => .text
  | .inlineFormula _ => .inlineFormula
  | .displayFormula _ => .displayFormula
  | .orderedList _ _ => .orderedList
  | .listItem _ => .listItem
  | .listItemIntro _ => .listItemIntro
  | .unknown => .unknown

end ExamPress.Document
