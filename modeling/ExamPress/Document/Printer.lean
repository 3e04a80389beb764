import ExamPress.Document.Kind
import ExamPress.Json.Writer

/-!
# Storing documents

A document is stored as JSON: every field is written, in a fixed order, the tag first.

## What is here

* `Document.Node.toValue` — the JSON value of a document;
* `Document.Node.toJson` — its text.
-/

set_option autoImplicit false

namespace ExamPress.Document

open ExamPress.Json (Value)

/-- The name of an orientation. -/
def Orientation.name : Orientation → String
  | vertical => "vertical"
  | horizontal => "horizontal"

/-- The attributes of a formula as they are stored. -/
def FormulaAttrs.toValue (attrs : FormulaAttrs) : Value :=
  .object [("code", match attrs.code with | some code => .string code | none => .null),
    ("display", .bool attrs.display), ("formOpen", .bool attrs.formOpen)]

/-- The attributes of a list as they are stored. -/
def ListAttrs.toValue (attrs : ListAttrs) : Value :=
  .object [("orientation", .string attrs.orientation.name),
    ("gridCols", .number (.integer attrs.gridCols.toNat))]

namespace Node

/-- The entry that names the kind of a node. -/
def tagEntry (k : Kind) : String × Value := (tagKey, .string k.tag)

mutual

/-- **The JSON value of a document.** -/
def toValue : Node → Value
  | document content => .object [tagEntry .document, ("content", .array (toValues content))]
  | paragraph content => .object [tagEntry .paragraph, ("content", .array (toValues content))]
  | text t => .object [tagEntry .text, ("text", .string t)]
  | inlineFormula attrs => .object [tagEntry .inlineFormula, ("attrs", attrs.toValue)]
  | displayFormula attrs => .object [tagEntry .displayFormula, ("attrs", attrs.toValue)]
  | orderedList attrs content =>
    .object [tagEntry .orderedList, ("attrs", attrs.toValue),
      ("content", .array (toValues content))]
  | listItem content => .object [tagEntry .listItem, ("content", .array (toValues content))]
  | listItemIntro content =>
    .object [tagEntry .listItemIntro, ("content", .array (toValues content))]
  | unknown => .object [tagEntry .unknown]

/-- The JSON values of several documents. -/
def toValues : List Node → List Value
  | [] => []
  | n :: nodes => toValue n :: toValues nodes

end

/-- **The text under which a document is stored.** -/
def toJson (n : Node) : String := String.ofList n.toValue.compact

end Node

end ExamPress.Document
