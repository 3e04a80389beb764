import ExamPress.Number.Binary64

/-!
# JSON values

A JSON value as it is written: an object is its list of entries, so the order of the keys and any
repeated key are still there for the reader of the value to judge.

## What is here

* `Json.Number` — a whole number or a double; which of the two is decided by the spelling;
* `Json.Value` — the values, and `Json.Value.equal` whether two are the same;
* `Json.Value.depth` — how deeply lists and objects are nested.
-/

set_option autoImplicit false

namespace ExamPress.Json

/-- A number.  Whole numbers that fit a 64-bit word stay exact, all others are doubles. -/
inductive Number
  | integer (n : Int)
  | float (x : Binary64)
  deriving DecidableEq

/-- A JSON value. -/
inductive Value
  | null
  | bool (b : Bool)
  | number (n : Number)
  | string (s : String)
  | array (items : List Value)
  | object (entries : List (String × Value))

namespace Value

mutual

/-- Are two values the same, entry for entry? -/
def equal : Value → Value → Bool
  | null, null => true
  | bool a, bool b => a = b
  | number m, number n => m = n
  | string s, string t => s = t
  | array a, array b => equalItems a b
  | object a, object b => equalEntries a b
  | _, _ => false

/-- Are two lists of values the same? -/
def equalItems : List Value → List Value → Bool
  | [], [] => true
  | v :: a, w :: b => equal v w && equalItems a b
  | _, _ => false

/-- Are two lists of entries the same? -/
def equalEntries : List (String × Value) → List (String × Value) → Bool
  | [], [] => true
  | (k, v) :: a, (l, w) :: b => k = l && equal v w && equalEntries a b
  | _, _ => false

end

mutual

theorem equal_iff (v w : Value) : equal v w = true ↔ v = w := by
  cases v <;> cases w <;> simp [equal, equalItems_iff, equalEntries_iff]

theorem equalItems_iff (a b : List Value) : equalItems a b = true ↔ a = b := by
  cases a <;> cases b <;> simp [equalItems, equal_iff, equalItems_iff]

theorem equalEntries_iff : ∀ a b : List (String × Value), equalEntries a b = true ↔ a = b
  | [], [] | [], _ :: _ | _ :: _, [] => by simp [equalEntries]
  | (k, v) :: a, (l, w) :: b => by simp [equalEntries, equal_iff v w, equalEntries_iff a b]

end

instance : DecidableEq Value := fun v w => decidable_of_iff _ (equal_iff v w)

mutual

/-- The number of lists and objects on the longest way down into a value. -/
def depth : Value → Nat
  | .array items => depthOfItems items + 1
  | .object entries => depthOfEntries entries + 1
  | _ => 0

/-- The greatest depth in a list of values. -/
def depthOfItems : List Value → Nat
  | [] => 0
  | v :: items => max (depth v) (depthOfItems items)

/-- The greatest depth in the values of a list of entries. -/
def depthOfEntries : List (String × Value) → Nat
  | [] => 0
  | (_, v) :: entries => max (depth v) (depthOfEntries entries)

end

end Value

end ExamPress.Json
