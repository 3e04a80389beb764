import ExamPress.Toml.Value

/-!
# Building tables

Headers and dotted keys name a way down through tables, and the tables on the way are made as
needed.  No table is defined twice, and none is extended in another way than it was begun.

## What is here

* `Toml.Entries` — the entries of a table;
* `Toml.descend` — changes the table at the end of a way;
* `Toml.define`, `Toml.openTable`, `Toml.openItem` — a key with its value, and the two headers.
-/

set_option autoImplicit false

namespace ExamPress.Toml

/-- The entries of a table, in order. -/
abbrev Entries := List (String × Value)

/-- The entries with the value of a key replaced, or added at the end. -/
def Entries.put (key : String) (v : Value) : Entries → Entries
  | [] => [(key, v)]
  | (k, w) :: entries => if k = key then (k, v) :: entries else (k, w) :: put key v entries

/-- **Changes the table at the end of a way.**  Tables on the way that are missing are made.  A way
leads through the last of several tables with the same header, but not into a table between braces,
and a dotted key does not lead into a table that has a header of its own. -/
def descend (dotted : Bool) (change : Origin → Entries → Option Entries) :
    List String → Origin → Entries → Option Entries
  | [], origin, entries => change origin entries
  | key :: path, _, entries =>
    match entries.lookup key with
    | none => do
      let origin := if dotted then .dotted else .implied
      some (entries.put key (.table origin (← descend dotted change path origin [])))
    | some (.table origin inner) =>
      if origin = .inline ∨ (dotted ∧ origin = .header) then none
      else do some (entries.put key (.table origin (← descend dotted change path origin inner)))
    | some (.tables items) =>
      match items.getLast? with
      | some (.table origin inner) => do
        let last := .table origin (← descend dotted change path origin inner)
        some (entries.put key (.tables (items.dropLast ++ [last])))
      | _ => none
    | some _ => none

/-- A key with its value.  The key must be new, and a dotted key must end in a table that dotted
keys have made. -/
def define (path : List String) (key : String) (v : Value) (origin : Origin)
    (entries : Entries) : Option Entries :=
  let add (origin : Origin) (entries : Entries) : Option Entries :=
    if path ≠ [] ∧ origin ≠ .dotted then none
    else if (entries.lookup key).isSome then none
    else some (entries.put key v)
  descend true add path origin entries

/-- The table of a header.  It must be new, or made only on the way to others. -/
def openTable (key : String) (_ : Origin) (entries : Entries) : Option Entries :=
  match entries.lookup key with
  | none => some (entries.put key (.table .header []))
  | some (.table .implied inner) => some (entries.put key (.table .header inner))
  | some _ => none

/-- One more table of a header in double brackets. -/
def openItem (key : String) (_ : Origin) (entries : Entries) : Option Entries :=
  match entries.lookup key with
  | none => some (entries.put key (.tables [.table .header []]))
  | some (.tables items) => some (entries.put key (.tables (items ++ [.table .header []])))
  | some _ => none

end ExamPress.Toml
