import ExamPress.Document.Decode
import ExamPress.Json.Reader

/-!
# Reading stored documents

A stored document is a JSON text.  Its outermost node is read straight from the text, and there
its tag must be a string; everything below it is read as JSON values first and decoded afterwards.
So a fault in the text is found before any problem inside the document, and only what is wrong
with the outermost tag has a place in the text.

## What is here

* `Document.ReadError` — a fault or a problem, `ReadError.message` and `ReadError.category`;
* `Document.readRoot` — the outermost node with its parts still undecoded;
* `Document.Node.ofJson` — a document from its text.
-/

set_option autoImplicit false

namespace ExamPress.Document

open ExamPress.Json (Value Fault Position)

/-- Why a text is not a stored document. -/
inductive ReadError
  /-- The text is not JSON. -/
  | text (cause : Json.Cause) (place : Position)
  /-- The text is JSON but not a document. -/
  | data (problem : Problem) (place : Option Position)
  deriving DecidableEq

namespace ReadError

/-- The sort of an error. -/
inductive Category
  | broken
  | ended
  | unfit
  deriving DecidableEq

/-- An error is of the text, of a text that ends too early, or of what the text says. -/
def category : ReadError → Category
  | text cause _ => if cause.isEnd then .ended else .broken
  | data _ _ => .unfit

/-- A message with its place. -/
def located (message : String) (p : Position) : String :=
  message ++ " at line " ++ String.ofList (Number.natText p.line) ++ " column " ++
    String.ofList (Number.natText p.column)

/-- **The wording of an error.** -/
def message : ReadError → String
  | text cause place => located cause.message place
  | data problem none => problem.message
  | data problem (some place) => located problem.message place

end ReadError

/-! ## The outermost node -/

/-- What is wrong with the outermost node, and where in the text. -/
inductive RootFault
  | fault (f : Fault)
  | problem (p : Problem) (unread : List Char)

/-- The parts of a node that are not decoded yet. -/
inductive Parts
  | entries (entries : List (String × Value))
  | items (items : List Value)

/-- The entries of the outermost object so far: the kind, and all entries but the tag. -/
structure RootDraft where
  kind : Option Kind := none
  entries : List (String × Value) := []

/-- How deep the values inside the outermost node may go. -/
def innerDepth : Nat := Json.depthLimit - 1

/-- The outermost tag, which must be a string.  Lists and objects are refused without being
read. -/
def readTag (s : List Char) : Except RootFault (Kind × List Char) :=
  match Json.skipBlanks s with
  | [] => .error (.fault (.next .endInValue []))
  | '[' :: s => .error (.problem (.wrongType .sequence .tag) ('[' :: s))
  | '\x7b' :: s => .error (.problem (.wrongType .map .tag) ('\x7b' :: s))
  | s => do
    let (v, s) ← (Json.readNested none s).mapError .fault
    match v with
    | .string name => .ok (.ofTag name, s)
    | v => .error (.problem (.wrongType (.ofValue v) .tag) s)

/-- A text without the end of an object, if that comes next. -/
def dropObjectEnd (s : List Char) : List Char :=
  match Json.skipBlanks s with
  | '\x7d' :: s => s
  | s => s

/-- One entry of the outermost object. -/
def readRootEntry (d : RootDraft) (key : String) (s : List Char) :
    Except RootFault (RootDraft × List Char) :=
  if key = tagKey then
    if d.kind.isSome then .error (.problem (.repeated tagKey) (dropObjectEnd s))
    else do
      let (_, s) ← (Json.readColon s).mapError .fault
      let (kind, s) ← readTag s
      .ok ({ d with kind := some kind }, s)
  else do
    let (entries, s) ←
      (Json.readEntry (Json.readValue innerDepth) d.entries key s).mapError .fault
    .ok ({ d with entries }, s)

/-- **The outermost node**: its kind, and its parts as values. -/
def readRoot (s : List Char) : Except RootFault (Kind × Parts × List Char) :=
  match Json.skipBlanks s with
  | '\x7b' :: s => do
    let (d, s) ← Json.readMembers .fault readRootEntry {} s
    match d.kind with
    | some kind => .ok (kind, .entries d.entries, s)
    | none => .error (.problem (.missing tagKey) s)
  | '[' :: s =>
    match Json.skipBlanks s with
    | [] => .error (.fault (.next .endInList []))
    | ']' :: s => .error (.problem (.missing tagKey) s)
    | s => do
      let (kind, s) ← readTag s
      let (items, s) ←
        (Json.readMoreItems (Json.readValue innerDepth) (s.length + 1) s).mapError .fault
      .ok (kind, .items items, s)
  | s => do
    let (v, s) ← (Json.readNested none s).mapError .fault
    .error (.problem (.wrongType (.ofValue v) .node) s)

/-- The node of a kind with the given parts. -/
def decodeParts (kind : Kind) : Parts → Except Problem Node
  | .entries entries => do .ok (kind.build (← decodeEntries kind {} entries))
  | .items items => do .ok (kind.build (← decodeItems kind kind.fields {} items))

/-! ## Documents -/

/-- A fault with its place in the text. -/
def ReadError.ofFault (text : List Char) (f : Fault) : ReadError :=
  .text f.cause (Json.position text f.unread f.ahead)

/-- What is wrong with the outermost node, with its place in the text. -/
def ReadError.ofRoot (text : List Char) : RootFault → ReadError
  | .fault f => .ofFault text f
  | .problem p unread => .data p (some (Json.position text unread 0))

/-- A document from the characters of its text. -/
def readDocument (text : List Char) : Except ReadError Node := do
  let (kind, parts, s) ← (readRoot text).mapError (.ofRoot text)
  let node ← (decodeParts kind parts).mapError (.data · none)
  (Json.expectEnd s).mapError (.ofFault text)
  .ok node

/-- **A document from its text.** -/
def Node.ofJson (text : String) : Except ReadError Node := readDocument text.toList

end ExamPress.Document
