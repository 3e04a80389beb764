/-!
# TOML values

What a TOML text holds.  A table remembers how it came to be, because that decides whether more may
be added to it later.

## What is here

* `Toml.Origin` — the ways a table comes to be;
* `Toml.Value` — the values;
* `Toml.Value.isPlain` — no number in the value is too large to be passed on.
-/

set_option autoImplicit false

namespace ExamPress.Toml

/-- How a table came to be. -/
inductive Origin
  /-- By a header of its own, or as the table of the whole text. -/
  | header
  /-- On the way to the table of a longer header. -/
  | implied
  /-- On the way to a dotted key. -/
  | dotted
  /-- Between braces. -/
  | inline
  deriving DecidableEq

/-- A TOML value.  Of floats and dates it is only known that they are well formed. -/
inductive Value
  | string (s : String)
  | integer (n : Int)
  /-- A float, and whether it is small enough for a double. -/
  | float (fits : Bool)
  | boolean (b : Bool)
  | datetime
  | array (items : List Value)
  /-- The tables of headers in double brackets. -/
  | tables (items : List Value)
  | table (origin : Origin) (entries : List (String × Value))

namespace Value

mutual

/-- No integer is beyond 64 bits, and no float beyond a double. -/
def isPlain : Value → Bool
  | integer n => -(2 ^ 63) ≤ n && n < 2 ^ 64
  | float fits => fits
  | array items | tables items => allPlain items
  | table _ entries => entriesPlain entries
  | string _ | boolean _ | datetime => true

/-- Every value of a list is plain. -/
def allPlain : List Value → Bool
  | [] => true
  | v :: items => isPlain v && allPlain items

/-- Every value of a list of entries is plain. -/
def entriesPlain : List (String × Value) → Bool
  | [] => true
  | (_, v) :: entries => isPlain v && entriesPlain entries

end

end Value

end ExamPress.Toml
