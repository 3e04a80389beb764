import ExamPress.Number.Binary64
import ExamPress.Number.Decimal

/-!
# Doubles in a text

A text may spell a double: a sign, digits with or without a point, and an exponent; or a word for
infinity.  Here it is read as the exact value of the double nearest to it.

## What is here

* `Number.readDouble?` — the value of such a text.
-/

set_option autoImplicit false

namespace ExamPress.Number

/-- Digits with or without a point, as a whole number and the power of ten that it counts, and the
text after them. -/
def splitDecimal? (s : List Char) : Option (Nat × Int × List Char) :=
  let whole := s.takeWhile Char.isDigit
  let rest := s.dropWhile Char.isDigit
  let (fraction, rest) :=
    match rest with
    | '.' :: s => (s.takeWhile Char.isDigit, s.dropWhile Char.isDigit)
    | s => ([], s)
  (digitsValue? (whole ++ fraction)).map fun n => (n, -(fraction.length : Int), rest)

/-- The exponent at the end of a number, zero when there is none. -/
def exponent? : List Char → Option Int
  | [] => some 0
  | 'e' :: s | 'E' :: s => readInt? s
  | _ => none

/-- The magnitude of a double beyond all finite ones. -/
def beyondDoubles : Rat := Binary64.power 2 1024

/-- The double nearest to a whole number times a power of ten.  What is far beyond the range of
doubles is not worked out. -/
def nearestDouble (n : Nat) (e : Int) : Rat :=
  let lead := e + ((natText n).length : Int)
  if n = 0 ∨ lead < -400 then 0
  else if 400 < lead then beyondDoubles
  else (Binary64.round? ((n : Rat) * Binary64.power 10 e)).getD beyondDoubles

/-- The magnitude of a double without its sign. -/
def readMagnitude? (s : List Char) : Option Rat :=
  if (s.map Char.toLower) = "inf".toList ∨ (s.map Char.toLower) = "infinity".toList then
    some beyondDoubles
  else do
    let (n, e, rest) ← splitDecimal? s
    some (nearestDouble n (e + (← exponent? rest)))

/-- **The value of a double in a text.**  A number too large counts as infinite, and an infinite one
as a value beyond all finite doubles. -/
def readDouble? : List Char → Option Rat
  | '-' :: s => (readMagnitude? s).map fun q => -q
  | '+' :: s => readMagnitude? s
  | s => readMagnitude? s

end ExamPress.Number
