import ExamPress.Template.Scope

/-!
# Helpers

A helper makes a value of its arguments, or decides which branch of its block is shown, how often and
in which scope.

## What is here

* `Template.Helper` — the helpers, `Helper.ofName?` their names;
* `Template.Inputs` — the arguments of a helper, and what it knows about its block;
* `Helper.value?` — the value of a helper between parentheses;
* `Template.Effect` — what a helper shows, `Helper.effect` the effect of each.
-/

set_option autoImplicit false

namespace ExamPress.Template

open ExamPress.Json (Value)

/-- A comparison of two values. -/
inductive Comparison
  | equal
  | different
  | less
  | atMost
  | greater
  | atLeast
  deriving DecidableEq

/-- Does a comparison hold?  Values that cannot be ordered are neither less nor greater. -/
def Comparison.holds (c : Comparison) (v w : Value) : Bool :=
  match c with
  | .equal => same v w
  | .different => !same v w
  | .less => order? v w = some .lt
  | .atMost => order? v w = some .lt || order? v w = some .eq
  | .greater => order? v w = some .gt
  | .atLeast => order? v w = some .gt || order? v w = some .eq

/-- The name of a comparison. -/
def Comparison.name : Comparison → String
  | .equal => "eq"
  | .different => "ne"
  | .less => "lt"
  | .atMost => "lte"
  | .greater => "gt"
  | .atLeast => "gte"

/-- **The helpers.** -/
inductive Helper
  /-- Shows one branch of its block when its argument counts as true, or when it does not. -/
  | condition (positive : Bool)
  /-- Shows its block for each item of a list, or each entry of an object. -/
  | each
  /-- Shows its block in the scope of its argument. -/
  | within
  /-- The item of a list, or the entry of an object. -/
  | lookup
  /-- Shows its block. -/
  | raw
  /-- Writes a message for the people who look after the program. -/
  | log
  | compare (c : Comparison)
  /-- Do all of its arguments count as true? -/
  | all
  /-- Does one of its arguments count as true? -/
  | any
  | not
  /-- How many items a list has, or entries an object, or bytes a text. -/
  | length
  deriving DecidableEq

/-- The helper of a name. -/
def Helper.ofName? (name : String) : Option Helper :=
  [("if", .condition true), ("unless", .condition false), ("each", .each), ("with", .within),
    ("lookup", .lookup), ("raw", .raw), ("log", .log), ("eq", .compare .equal),
    ("ne", .compare .different), ("lt", .compare .less), ("lte", .compare .atMost),
    ("gt", .compare .greater), ("gte", .compare .atLeast), ("and", .all), ("or", .any),
    ("not", .not), ("len", .length)].lookup name

/-- **What a helper works with.** -/
structure Inputs where
  args : List Operand
  options : List (String × Operand) := []
  /-- The names that its block gives. -/
  names : List String := []
  /-- Does it have a block? -/
  hasBody : Bool := false
  /-- Does its block say what is to be done otherwise? -/
  hasOtherwise : Bool := false

namespace Inputs

/-- An argument that must be there. -/
def arg (i : Inputs) (helper : String) (index : Nat) : Except Reason Operand :=
  match i.args[index]? with
  | some o => .ok o
  | none => .error (.missingArgument helper index)

/-- An argument that must be there and have a value. -/
def present (i : Inputs) (helper : String) (index : Nat) : Except Reason Value := do
  match (← i.arg helper index).found with
  | some v => .ok v
  | none => .error (.missingArgument helper index)

end Inputs

/-- How many items, entries or bytes a value has. -/
def lengthOf : Value → Nat
  | .array items => items.length
  | .object entries => entries.length
  | .string s => s.utf8ByteSize
  | _ => 0

/-- The item of a list, or the entry of an object. -/
def lookedUp (v key : Value) : Option Value :=
  match v, key with
  | .array items, .number (.integer n) => if 0 ≤ n then items[n.toNat]? else none
  | .object entries, .string key => member entries key
  | _, _ => none

/-- The truth value of a helper that has one. -/
def Helper.truth? (h : Helper) (i : Inputs) : Except Reason (Option Bool) := do
  match h with
  | .compare c =>
    let v ← i.present c.name 0
    let w ← i.present c.name 1
    .ok (some (c.holds v w))
  | .not => .ok (some (!truthy (← i.present "not" 0)))
  | .all => .ok (some (i.args.all fun o => truthy o.value))
  | .any => .ok (some (i.args.any fun o => truthy o.value))
  | _ => .ok none

/-- **The value of a helper**, if it makes one. -/
def Helper.value? (h : Helper) (i : Inputs) : Except Reason (Option Value) := do
  match ← h.truth? i with
  | some b => .ok (some (.bool b))
  | none =>
    match h with
    | .lookup =>
      match lookedUp (← i.arg "lookup" 0).value (← i.arg "lookup" 1).value with
      | some v => .ok (some v)
      | none => .error (.missingValue none)
    | .length =>
      match i.args.head?.bind Operand.found with
      | some v => .ok (some (natValue (lengthOf v)))
      | none => .error (.missingNamed "len" "x")
    | _ => .ok none

/-- **What a helper does**: it shows a text, or its block as if the helper were not around it, or its
block once for each of some scopes, or what is to be done otherwise. -/
inductive Effect
  | print (text : List Char)
  | body
  | rounds (scopes : List Scope)
  | otherwise

/-- The names that a block gives to a value and its key. -/
def givenNames (names : List String) (value : Source) (key : Value) : List (String × Source) :=
  match names with
  | [] => []
  | [name] => [(name, value)]
  | name :: keyName :: _ => [(name, value), (keyName, .value key)]

/-- The scope of one round of a loop.  What is at a place in the data is still at a place. -/
def roundScope (collection : Operand) (names : List String) (counters : List (String × Value))
    (key : String) (keyValue v : Value) : Scope :=
  let subject : Source :=
    match collection.place with
    | some way => .place (way ++ [key])
    | none => .value v
  { subject, counters, names := givenNames names subject keyValue }

/-- The rounds of a loop over a list. -/
def itemScopes (collection : Operand) (names : List String) (items : List Value) : List Scope :=
  items.mapIdx fun i v =>
    roundScope collection names
      [("first", .bool (i = 0)), ("last", .bool (i + 1 = items.length)), ("index", natValue i)]
      (String.ofList (Number.natText i)) (natValue i) v

/-- The rounds of a loop over an object. -/
def entryScopes (collection : Operand) (names : List String) (entries : List (String × Value)) :
    List Scope :=
  entries.mapIdx fun i (key, v) =>
    roundScope collection names
      [("first", .bool (i = 0)), ("last", .bool (i + 1 = entries.length)), ("index", natValue i),
        ("key", .string key)]
      key (.string key) v

/-- A loop.  An empty list has a round only when nothing else is to be done for it. -/
def eachEffect (i : Inputs) : Except Reason Effect := do
  let o ← i.arg "each" 0
  if !i.hasBody then .ok (.rounds [])
  else
    let scopes :=
      match o.value with
      | .array items => some (itemScopes o i.names items)
      | .object entries => some (entryScopes o i.names entries)
      | _ => none
    match scopes with
    | some scopes =>
      if scopes.isEmpty && i.hasOtherwise then .ok .otherwise else .ok (.rounds scopes)
    | none => if i.hasOtherwise then .ok .otherwise else .error (.missingValue o.raw)

/-- The block in the scope of a value that counts as true. -/
def withinEffect (i : Inputs) : Except Reason Effect := do
  let o ← i.arg "with" 0
  if truthy o.value then
    let names :=
      match i.names with
      | [name] => [(name, o.source)]
      | _ => []
    .ok (.rounds [{ subject := o.source, names }])
  else if i.hasOtherwise then .ok .otherwise
  else .error (.missingValue o.raw)

/-- One branch of a block. -/
def conditionEffect (positive : Bool) (i : Inputs) : Except Reason Effect := do
  let o ← i.arg "if" 0
  let withZero :=
    match (i.options.lookup "includeZero").map Operand.value with
    | some (.bool b) => b
    | _ => false
  let truth := if withZero then truthyWithZero o.value else truthy o.value
  .ok (if truth = positive then .body else .otherwise)

/-- A message, which must have a level that there is. -/
def logEffect (i : Inputs) : Except Reason Effect :=
  let level :=
    match (i.options.lookup "level").map Operand.value with
    | some (.string level) => level
    | _ => "info"
  if ["error", "warn", "info", "debug", "trace"].contains level.toLower then .ok (.print [])
  else .error (.unknownLevel level)

/-- **The effect of a helper** outside parentheses. -/
def Helper.effect (h : Helper) (i : Inputs) : Except Reason Effect := do
  match h with
  | .condition positive => conditionEffect positive i
  | .each => eachEffect i
  | .within => withinEffect i
  | .raw => .ok .body
  | .log => logEffect i
  | h =>
    match ← h.truth? i with
    | some b =>
      if i.hasBody then .ok (if b then .body else .otherwise)
      else .ok (.print (shown (.bool b)))
    | none => .ok (.print (((← h.value? i).map shown).getD []))

end ExamPress.Template
