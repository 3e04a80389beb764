import ExamPress.Toml.Scalar
import ExamPress.Toml.Table

/-!
# Reading TOML

A text is a sequence of lines, each a key with its value, a header, or nothing.

## What is here

* `Toml.readValue` — a value, nested at most so deep;
* `Toml.readLines` — the lines of a text, entered into its table;
* `Toml.parse?` — the table of a text, if it is TOML.
-/

set_option autoImplicit false

namespace ExamPress.Toml

/-- How deep arrays and tables between braces may be nested. -/
def depthLimit : Nat := 80

/-- The items of an array, from after the opening bracket or a comma. -/
def readItems (value : List Char → Option (Value × List Char)) :
    Nat → List Char → Option (List Value × List Char)
  | 0, _ => none
  | fuel + 1, s => do
    match ← skipGap false s with
    | ']' :: s => some ([], s)
    | s =>
      let (v, s) ← value s
      match ← skipGap false s with
      | ',' :: s =>
        let (items, s) ← readItems value fuel s
        some (v :: items, s)
      | ']' :: s => some ([v], s)
      | _ => none

/-- A key, an equals sign and a value. -/
def readKeyValue (value : List Char → Option (Value × List Char)) (s : List Char) :
    Option (List String × String × Value × List Char) := do
  let (path, key, s) ← readKey s
  match s with
  | '=' :: s =>
    let (v, s) ← value (skipSpace s)
    some (path, key, v, s)
  | _ => none

/-- The entries of a table between braces, added to those before them, from after the opening brace
or a comma. -/
def readInline (value : List Char → Option (Value × List Char)) :
    Nat → Entries → List Char → Option (Entries × List Char)
  | 0, _, _ => none
  | fuel + 1, entries, s => do
    match ← skipGap false s with
    | '\x7d' :: s => some (entries, s)
    | s =>
      let (path, key, v, s) ← readKeyValue value s
      let entries ← define path key v .inline entries
      match ← skipGap false s with
      | ',' :: s => readInline value fuel entries s
      | '\x7d' :: s => some (entries, s)
      | _ => none

/-- One value, where `inner` reads the values inside arrays and tables if there may be any. -/
def readNested (inner : Option (List Char → Option (Value × List Char))) (s : List Char) :
    Option (Value × List Char) :=
  let quoted (r : Option (List Char × List Char)) : Option (Value × List Char) :=
    r.map fun r => (.string (String.ofList r.1), r.2)
  match s with
  | '"' :: '"' :: '"' :: s => quoted (readLong true s)
  | '"' :: s => quoted (readBasic s)
  | '\'' :: '\'' :: '\'' :: s => quoted (readLong false s)
  | '\'' :: s => quoted (readLiteral s)
  | '[' :: s => do
    let (items, s) ← readItems (← inner) (s.length + 1) s
    some (.array items, s)
  | '\x7b' :: s => do
    let (entries, s) ← readInline (← inner) (s.length + 1) [] s
    some (.table .inline entries, s)
  | s => do
    let (text, s) := readScalarText s
    some (← scalar? text, s)

/-- **A value** in which arrays and tables are nested at most `depth` deep. -/
def readValue : Nat → List Char → Option (Value × List Char)
  | 0 => readNested none
  | depth + 1 => readNested (some (readValue depth))

/-- The way of a header, from after its brackets up to after the closing ones. -/
def readHeader (closing : List Char) (s : List Char) :
    Option (List String × String × List Char) := do
  let (path, key, s) ← readKey (skipSpace s)
  if closing.isPrefixOf s then some (path, key, s.drop closing.length) else none

/-- The text being read: its table so far, and the way to the table of the last header. -/
structure Draft where
  entries : Entries := []
  path : List String := []

/-- A line that is not blank, up to but without the end of the line. -/
def readLine (d : Draft) (s : List Char) : Option (Draft × List Char) :=
  match s with
  | '[' :: '[' :: s => do
    let (path, key, s) ← readHeader [']', ']'] s
    let entries ← descend false (openItem key) path .header d.entries
    some ({ entries, path := path ++ [key] }, s)
  | '[' :: s => do
    let (path, key, s) ← readHeader [']'] s
    let entries ← descend false (openTable key) path .header d.entries
    some ({ entries, path := path ++ [key] }, s)
  | s => do
    let (path, key, v, s) ← readKeyValue (readValue depthLimit) s
    let entries ← descend false (define path key v) d.path .header d.entries
    some ({ d with entries }, s)

/-- **The lines of a text**, entered into the table so far.  Every line takes a character, so the
fuel exceeds the length of the text. -/
def readLines : Nat → Draft → List Char → Option Draft
  | 0, _, _ => none
  | fuel + 1, d, s => do
    match ← skipGap false s with
    | [] => some d
    | s =>
      let (d, s) ← readLine d s
      readLines fuel d (← readLineEnd s)

/-- A text without the mark that some editors put at its beginning. -/
def dropByteOrderMark : List Char → List Char
  | '\uFEFF' :: s => s
  | s => s

/-- **The table of a TOML text.** -/
def parse? (text : String) : Option Entries := do
  let s := dropByteOrderMark text.toList
  some (← readLines (s.length + 1) {} s).entries

end ExamPress.Toml
