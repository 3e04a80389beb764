import ExamPress.Document.Kind
import ExamPress.Document.Problem

/-!
# Documents from JSON values

A node is stored as an object with a tag and fields, or as a list of a tag and the fields in their
order.  Fields that are absent take their defaults, fields that are not known are passed over, and
a field that is there twice is refused.

## What is here

* `Document.decodeFormulaAttrs`, `Document.decodeListAttrs` — the attributes, where null stands
  for all defaults;
* `Document.Draft` — the fields of a node met so far, and `Document.Kind.build` the node they make;
* `Document.decodeNode` — a node, `Document.decodeEntries` and `Document.decodeItems` its fields.
-/

set_option autoImplicit false

namespace ExamPress.Document

open ExamPress.Json (Value)

/-- Refuses a value because another kind of value is wanted. -/
def refuse {α : Type} (v : Value) (wanted : Wanted) : Except Problem α :=
  .error (.wrongType (.ofValue v) wanted)

/-! ## Plain values -/

/-- A string. -/
def decodeString : Value → Except Problem String
  | .string s => .ok s
  | v => refuse v .string

/-- A truth value. -/
def decodeBool : Value → Except Problem Bool
  | .bool b => .ok b
  | v => refuse v .boolean

/-- The source of a formula, which may be null. -/
def decodeCode : Value → Except Problem (Option String)
  | .null => .ok none
  | .string s => .ok (some s)
  | v => refuse v .string

/-- A number of columns; null stands for two. -/
def decodeColumns : Value → Except Problem UInt32
  | .null => .ok 2
  | .number (.integer n) =>
    if 0 ≤ n ∧ n < UInt32.size then .ok (UInt32.ofNat n.toNat)
    else .error (.wrongValue (.integer n) .columnCount)
  | v => refuse v .columnCount

/-- The orientation that goes by a name.  Every name but one stands for the usual one. -/
def Orientation.ofName (name : String) : Orientation :=
  if name = "vertical" then .vertical else .horizontal

/-- An orientation: its name, or an object with the name as its only key and nothing as its value.
Null stands for the usual one. -/
def decodeOrientation : Value → Except Problem Orientation
  | .null => .ok .horizontal
  | .string name => .ok (.ofName name)
  | .object [(name, .null)] => .ok (.ofName name)
  | .object [(name, .object [])] => .ok (.ofName name)
  | .object [(_, v)] => refuse v .nothing
  | .object _ => .error (.wrongValue .map .singleEntry)
  | v => refuse v .orientation

/-! ## Attributes -/

/-- Stores the value of a field that must not have been met before. -/
def setOnce {α : Type} (name : String) (old : Option α) (value : Except Problem α) :
    Except Problem (Option α) :=
  match old with
  | some _ => .error (.repeated name)
  | none => value.map some

/-- Refuses items that are left over when all `n` fields have their value. -/
def noMoreItems {α : Type} (n : Nat) (result : α) : List Value → Except Problem α
  | [] => .ok result
  | rest => .error (.wrongLength (n + rest.length) (.items n))

/-- The attributes of a formula met so far. -/
structure FormulaDraft where
  code : Option (Option String) := none
  display : Option Bool := none
  formOpen : Option Bool := none

/-- The attributes, with defaults for those not met. -/
def FormulaDraft.build (d : FormulaDraft) : FormulaAttrs :=
  ⟨d.code.getD none, d.display.getD false, d.formOpen.getD false⟩

/-- The attributes of a formula from an object. -/
def decodeFormulaEntries (d : FormulaDraft) : List (String × Value) → Except Problem FormulaDraft
  | [] => .ok d
  | (key, v) :: entries =>
    if key = "code" then do
      decodeFormulaEntries { d with code := ← setOnce key d.code (decodeCode v) } entries
    else if key = "display" then do
      decodeFormulaEntries { d with display := ← setOnce key d.display (decodeBool v) } entries
    else if key = "formOpen" then do
      decodeFormulaEntries { d with formOpen := ← setOnce key d.formOpen (decodeBool v) } entries
    else decodeFormulaEntries d entries

/-- The attributes of a formula from a list. -/
def decodeFormulaItems : List Value → Except Problem FormulaAttrs
  | [] => .ok {}
  | [code] => do .ok { code := ← decodeCode code }
  | [code, display] => do .ok { code := ← decodeCode code, display := ← decodeBool display }
  | code :: display :: formOpen :: rest => do
    let attrs := ⟨← decodeCode code, ← decodeBool display, ← decodeBool formOpen⟩
    noMoreItems 3 attrs rest

/-- **The attributes of a formula.** -/
def decodeFormulaAttrs : Value → Except Problem FormulaAttrs
  | .null => .ok {}
  | .object entries => do .ok (← decodeFormulaEntries {} entries).build
  | .array items => decodeFormulaItems items
  | v => refuse v .formulaAttrs

/-- The attributes of a list met so far. -/
structure ListDraft where
  orientation : Option Orientation := none
  gridCols : Option UInt32 := none

/-- The attributes, with defaults for those not met. -/
def ListDraft.build (d : ListDraft) : ListAttrs :=
  ⟨d.orientation.getD .horizontal, d.gridCols.getD 2⟩

/-- The attributes of a list from an object. -/
def decodeListEntries (d : ListDraft) : List (String × Value) → Except Problem ListDraft
  | [] => .ok d
  | (key, v) :: entries =>
    if key = "orientation" then do
      let orientation ← setOnce key d.orientation (decodeOrientation v)
      decodeListEntries { d with orientation } entries
    else if key = "gridCols" then do
      decodeListEntries { d with gridCols := ← setOnce key d.gridCols (decodeColumns v) } entries
    else decodeListEntries d entries

/-- The attributes of a list from a list. -/
def decodeListItems : List Value → Except Problem ListAttrs
  | [] => .ok {}
  | [orientation] => do .ok { orientation := ← decodeOrientation orientation }
  | orientation :: gridCols :: rest => do
    let attrs := ⟨← decodeOrientation orientation, ← decodeColumns gridCols⟩
    noMoreItems 2 attrs rest

/-- **The attributes of a list.** -/
def decodeListAttrs : Value → Except Problem ListAttrs
  | .null => .ok {}
  | .object entries => do .ok (← decodeListEntries {} entries).build
  | .array items => decodeListItems items
  | v => refuse v .listAttrs

/-! ## Nodes -/

/-- The fields of a node met so far. -/
structure Draft where
  content : Option (List Node) := none
  text : Option String := none
  formula : Option FormulaAttrs := none
  list : Option ListAttrs := none

/-- The node of a kind, with defaults for the fields not met. -/
def Kind.build (d : Draft) : Kind → Node
  | document => .document (d.content.getD [])
  | paragraph => .paragraph (d.content.getD [])
  | text => .text (d.text.getD "")
  | inlineFormula => .inlineFormula (d.formula.getD {})
  | displayFormula => .displayFormula (d.formula.getD {})
  | orderedList => .orderedList (d.list.getD {}) (d.content.getD [])
  | listItem => .listItem (d.content.getD [])
  | listItemIntro => .listItemIntro (d.content.getD [])
  | unknown => .unknown

/-- Has the field been met? -/
def Draft.has (d : Draft) : Field → Bool
  | .content => d.content.isSome
  | .text => d.text.isSome
  | .formulaAttrs => d.formula.isSome
  | .listAttrs => d.list.isSome

/-- The kind that a tag names, by its name or its number. -/
def decodeTag : Value → Except Problem Kind
  | .string name => .ok (.ofTag name)
  | .number (.integer n) =>
    if 0 ≤ n then .ok (.ofIndex n.toNat) else refuse (.number (.integer n)) .tag
  | v => refuse v .tag

/-- The kind of a node from the entries of its object. -/
def kindOfEntries (seen : Option Kind) : List (String × Value) → Except Problem Kind
  | [] =>
    match seen with
    | some kind => .ok kind
    | none => .error (.missing tagKey)
  | (key, v) :: entries =>
    if key = tagKey then do
      let kind ← setOnce tagKey seen (decodeTag v)
      kindOfEntries kind entries
    else kindOfEntries seen entries

mutual

/-- **A node** from its JSON value. -/
def decodeNode : Value → Except Problem Node
  | .object entries => do
    let kind ← kindOfEntries none entries
    .ok (kind.build (← decodeEntries kind {} entries))
  | .array [] => .error (.missing tagKey)
  | .array (tag :: items) => do
    let kind ← decodeTag tag
    .ok (kind.build (← decodeItems kind kind.fields {} items))
  | v => refuse v .node

/-- Nodes from their JSON values. -/
def decodeNodes : List Value → Except Problem (List Node)
  | [] => .ok []
  | v :: values => do
    let n ← decodeNode v
    .ok (n :: (← decodeNodes values))

/-- The value of a field added to those met before. -/
def decodeField (d : Draft) : Field → Value → Except Problem Draft
  | .content, .array values => do .ok { d with content := some (← decodeNodes values) }
  | .content, v => refuse v .sequence
  | .text, v => do .ok { d with text := some (← decodeString v) }
  | .formulaAttrs, v => do .ok { d with formula := some (← decodeFormulaAttrs v) }
  | .listAttrs, v => do .ok { d with list := some (← decodeListAttrs v) }

/-- The fields of a node of the given kind from the entries of an object. -/
def decodeEntries (kind : Kind) (d : Draft) : List (String × Value) → Except Problem Draft
  | [] => .ok d
  | (key, v) :: entries =>
    match kind.fields.find? (·.key = key) with
    | none => decodeEntries kind d entries
    | some field =>
      if d.has field then .error (.repeated key)
      else do
        let d ← decodeField d field v
        decodeEntries kind d entries

/-- The remaining fields of a node of the given kind from the items of a list. -/
def decodeItems (kind : Kind) (fields : List Field) (d : Draft) :
    List Value → Except Problem Draft
  | [] => .ok d
  | v :: values =>
    match fields with
    | [] =>
      noMoreItems kind.fields.length d (v :: values)
    | field :: fields => do
      let d ← decodeField d field v
      decodeItems kind fields d values

end

end ExamPress.Document
