import ExamPress.Json.Writer
import ExamPress.Number.Real

/-!
# Values in templates

What a template makes of a value: its text, whether it counts as true, and how two values compare.

## What is here

* `Template.shown` — the text of a value;
* `Template.truthy` — whether a value counts as true;
* `Template.same` — whether two values are equal; a whole number differs from a double;
* `Template.order?` — which of two numbers, texts or truth values comes first;
* `Template.member` — what stands under a key.
-/

set_option autoImplicit false

namespace ExamPress.Template

open ExamPress.Json (Value)

mutual

/-- **The text of a value.**  Nothing is escaped, nothing is shown for the missing value, and the
inside of an object is not shown. -/
def shown : Value → List Char
  | .null => []
  | .bool b => (if b then "true" else "false").toList
  | .number n => n.text
  | .string s => s.toList
  | .array items => '[' :: shownItems items ++ [']']
  | .object _ => "[object]".toList

/-- The texts of the items of a list, with commas between them. -/
def shownItems : List Value → List Char
  | [] => []
  | [v] => shown v
  | v :: w :: items => shown v ++ ',' :: ' ' :: shownItems (w :: items)

end

/-- Does a number count as true?  Zero does not, nor do the doubles so small that they have fewer
digits than others. -/
def truthyNumber : Json.Number → Bool
  | .integer n => n ≠ 0
  | .float x => Binary64.power 2 (-1022) ≤ x.magnitude

/-- **Does a value count as true?**  Empty texts, lists and objects do not. -/
def truthy : Value → Bool
  | .null => false
  | .bool b => b
  | .number n => truthyNumber n
  | .string s => s ≠ ""
  | .array items => !items.isEmpty
  | .object entries => !entries.isEmpty

/-- Does a value count as true, when zero does so too? -/
def truthyWithZero : Value → Bool
  | .number _ => true
  | v => truthy v

/-- Are two numbers equal?  The sign of zero does not matter. -/
def sameNumber : Json.Number → Json.Number → Bool
  | .integer m, .integer n => m = n
  | .float x, .float y => x.toRat = y.toRat
  | _, _ => false

mutual

/-- **Are two values equal?** -/
def same : Value → Value → Bool
  | .null, .null => true
  | .bool a, .bool b => a = b
  | .number m, .number n => sameNumber m n
  | .string s, .string t => s = t
  | .array a, .array b => sameItems a b
  | .object a, .object b => sameEntries a b
  | _, _ => false

/-- Are two lists of values equal? -/
def sameItems : List Value → List Value → Bool
  | [], [] => true
  | v :: a, w :: b => same v w && sameItems a b
  | _, _ => false

/-- Are two lists of entries equal?  Their keys are in order. -/
def sameEntries : List (String × Value) → List (String × Value) → Bool
  | [], [] => true
  | (k, v) :: a, (l, w) :: b => k = l && same v w && sameEntries a b
  | _, _ => false

end

/-- The exact value of a number. -/
def exact : Json.Number → Rat
  | .integer n => n
  | .float x => x.toRat

/-- The double nearest to a number. -/
def asDouble : Json.Number → Rat
  | .integer n =>
    let q := (Binary64.round? (n.natAbs : Rat)).getD 0
    if n < 0 then -q else q
  | .float x => x.toRat

/-- Which of two numbers comes first. -/
def orderRat (p q : Rat) : Ordering := if p < q then .lt else if p = q then .eq else .gt

/-- **Which of two values comes first**, if they can be compared: numbers exactly, texts by their
characters, truth values with the false one first, and a number with a text that spells a double. -/
def order? : Value → Value → Option Ordering
  | .number m, .number n => some (orderRat (exact m) (exact n))
  | .string s, .string t => some (compare s t)
  | .bool a, .bool b => some (compare a b)
  | .number m, .string t => (Number.readDouble? t.toList).map fun q => orderRat (asDouble m) q
  | .string s, .number n => (Number.readDouble? s.toList).map fun q => orderRat q (asDouble n)
  | _, _ => none

/-- The value under a key of an object. -/
def member (entries : List (String × Value)) (key : String) : Option Value := entries.lookup key

/-- The object with one entry set, its keys still in order. -/
def setMember (key : String) (v : Value) : List (String × Value) → List (String × Value)
  | [] => [(key, v)]
  | (k, w) :: entries =>
    if key = k then (key, v) :: entries
    else if key < k then (key, v) :: (k, w) :: entries
    else (k, w) :: setMember key v entries

/-- A natural number as a value. -/
def natValue (n : Nat) : Value := .number (.integer n)

end ExamPress.Template
