import ExamPress.Template.Data
import ExamPress.Template.Fault

/-!
# Scopes

What a reference means depends on the blocks around it.  A block that works on something opens a
scope, and so does a part; a reference is looked up in the innermost scope, or so many scopes further
out.  Variables and given names that a scope does not have are those of the scopes around it.

## What is here

* `Template.Source` — a place in the data, or a value that is not in the data;
* `Template.Scope` — what a block works on, with its variables and the names it gives;
* `Template.Operand` — a value with the way to it;
* `Template.Surroundings` — the data and the open scopes, `Surroundings.resolve` the value of a
  reference.
-/

set_option autoImplicit false

namespace ExamPress.Template

open ExamPress.Json (Value)

/-- What a name stands for: a place in the data, or a value that is not in the data. -/
inductive Source
  | place (way : List String)
  | value (v : Value)

/-- **A scope.** -/
structure Scope where
  /-- What the scope is about. -/
  subject : Source
  /-- The variables that count the rounds of a loop. -/
  counters : List (String × Value) := []
  /-- The names that the block gives. -/
  names : List (String × Source) := []

/-- **A value with the way to it.** -/
structure Operand where
  /-- The value, if there is one. -/
  found : Option Value
  /-- Where the value is in the data, if it was found there. -/
  place : Option (List String) := none
  /-- The spelling of the reference that the value was found by. -/
  raw : Option String := none

namespace Operand

/-- A value that does not come from the data. -/
def ofValue (v : Value) : Operand := { found := some v }

/-- The value, where nothing stands in for the one that is missing. -/
def value (o : Operand) : Value := o.found.getD .null

/-- The value as the subject of a scope. -/
def source (o : Operand) : Source :=
  match o.place with
  | some way => .place way
  | none => .value o.value

end Operand

/-- What is around a tag: the data, and the open scopes, innermost first. -/
structure Surroundings where
  data : Value
  scopes : List Scope

/-- The number that a name gives to an item of a list: one that fits a 64-bit word, or that an item
has. -/
def itemNumber? (items : List Value) (name : String) : Option Nat :=
  (Number.readNat? name.toList).filter fun i => i < UInt64.size || i < items.length

/-- One step down into a value.  Items of a list are numbered from zero. -/
def stepDown (v : Option Value) (name : String) : Except Reason (Option Value) :=
  match v with
  | some (.array items) =>
    match itemNumber? items name with
    | some i => .ok items[i]?
    | none => .error (.itemName name)
  | some (.object entries) => .ok (member entries name)
  | _ => .ok none

/-- The value some steps down. -/
def walk (v : Value) (names : List String) : Except Reason (Option Value) :=
  names.foldlM stepDown (some v)

namespace Surroundings

/-- The value that is some steps down from a source. -/
def follow (s : Surroundings) (start : Source) (names : List String) (raw : Option String) :
    Except Reason Operand := do
  match start with
  | .place way =>
    let found ← walk s.data (way ++ names)
    .ok { found, place := found.map fun _ => way ++ names, raw }
  | .value v => .ok { found := ← walk v names, raw }

/-- What a name stands for that a scope gives, the innermost scope first. -/
def given? (s : Surroundings) (name : String) : Option Source :=
  s.scopes.findSome? fun scope => scope.names.lookup name

/-- The variable of a loop, the innermost loop first, where so many scopes are passed over. -/
def counter? (s : Surroundings) (level : Nat) (name : String) : Option Value :=
  (s.scopes.drop level).findSome? fun scope => scope.counters.lookup name

/-- What the scope so many levels up is about.  Beyond the outermost scope it is the innermost one
that counts. -/
def subject (s : Surroundings) (up : Nat) : Source :=
  (((s.scopes[up]?).or s.scopes.head?).map Scope.subject).getD (.place [])

/-- **The value of a reference.** -/
def resolve (s : Surroundings) (r : Reference) : Except Reason Operand :=
  match r.target with
  | .scopeVariable level name =>
    .ok { found := s.counter? level name, raw := some r.raw }
  | .absolute names => s.follow (.place []) names (some r.raw)
  | .relative up names =>
    match names with
    | [] => s.follow (s.subject up) [] (some r.raw)
    | name :: more =>
      match s.given? name with
      | some start => s.follow start more (some r.raw)
      | none => s.follow (s.subject up) names (some r.raw)

/-- The surroundings inside a scope. -/
def enter (s : Surroundings) (scope : Scope) : Surroundings :=
  { s with scopes := scope :: s.scopes }

end Surroundings

end ExamPress.Template
