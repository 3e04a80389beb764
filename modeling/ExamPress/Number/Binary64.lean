import ExamPress.Number.Decimal

/-!
# Double-precision numbers

A finite double-precision number is a sign and the exact rational number of its magnitude, so
every operation is exact arithmetic followed by one rounding, and nothing here depends on how a
machine computes.

## What is here

* `Binary64.round?` — the nearest double to a rational magnitude, ties to the even significand,
  `none` when it lies beyond the largest one;
* `Binary64.shortest` — the fewest decimal digits that round back to a double, and of those the
  nearest to it;
* `Binary64.text` — those digits with a decimal point, or with an exponent when the number is very
  large or very small;
* `Binary64.ofDecimal?` — the value of a decimal significand and a power of ten, reached by the
  rounded multiplications and divisions of a reader that scales step by step.
-/

set_option autoImplicit false

namespace ExamPress

/-- A finite double-precision number.  Zero has a sign too. -/
structure Binary64 where
  /-- The sign bit. -/
  negative : Bool
  /-- The absolute value, exactly. -/
  magnitude : Rat
  deriving DecidableEq

namespace Binary64

/-- Two, or ten, to a whole power. -/
def power (base : Nat) (e : Int) : Rat :=
  if 0 ≤ e then .ofInt (base.pow e.toNat) else 1 / .ofInt (base.pow (-e).toNat)

/-- The exponent of the last place of the significand with which a magnitude is written: the
significand has 53 bits unless that would need an exponent below -1074. -/
def lastPlace (q : Rat) : Int :=
  let e := (q.num.toNat.log2 : Int) - q.den.log2 - 53
  max (if power 2 53 ≤ q * power 2 (-e) then e + 1 else e) (-1074)

/-- The whole number nearest to a rational that is not negative, the even one of two. -/
def roundEven (q : Rat) : Nat :=
  let n := q.num.toNat
  let d := q.den
  let below := n / d
  let twice := 2 * (n % d)
  if twice < d then below
  else if d < twice then below + 1
  else if below % 2 = 0 then below else below + 1

/-- **The double nearest to a magnitude**, unless it is too large. -/
def round? (q : Rat) : Option Rat :=
  if q = 0 then some 0
  else
    let e := lastPlace q
    let r := (roundEven (q * power 2 (-e)) : Rat) * power 2 e
    if r < power 2 1024 then some r else none

/-! ## Decimal text -/

/-- The power of ten of the first digit of a positive magnitude. -/
def leadingPlace (q : Rat) : Int :=
  let e := ((Nat.toDigits 10 q.num.toNat).length : Int) - (Nat.toDigits 10 q.den).length
  if power 10 e ≤ q then e else e - 1

/-- The two multiples of a power of ten on either side of a magnitude, the nearer first. -/
def neighbours (q : Rat) (place : Int) : List Nat :=
  let scaled := q * power 10 (-place)
  let below := scaled.num.toNat / scaled.den
  if roundEven scaled = below then [below, below + 1] else [below + 1, below]

/-- The first of the given decimal places on which a number rounds to the double `q`. -/
def shortestFrom (q : Rat) : List Int → Nat × Int
  | [] => (0, 0)
  | place :: places =>
    match (neighbours q place).find? fun (n : Nat) => round? ((n : Rat) * power 10 place) = some q with
    | some n => (n, place)
    | none => shortestFrom q places

/-- **The fewest digits that read back**: a whole number and the power of ten that it counts.
Seventeen digits are always enough. -/
def shortest (q : Rat) : Nat × Int :=
  shortestFrom q ((List.range 17).map fun (k : Nat) => leadingPlace q - (k : Int))

/-- A whole number without its final zeros, and how many of them there were. -/
def dropZeros (digits : List Char) : List Char × Nat :=
  let kept := (digits.reverse.dropWhile (· = '0')).reverse
  (kept, digits.length - kept.length)

/-- Digits `d₁d₂…` with the first of them in the place of `10 ^ lead`, written with a decimal
point when `-5 ≤ lead ≤ 15` and otherwise with an exponent of a sign and at least two digits. -/
def placeDigits (digits : List Char) (lead : Int) : List Char :=
  if 0 ≤ lead ∧ lead ≤ 15 then
    let whole := lead.toNat + 1
    let padded := digits ++ List.replicate (whole - digits.length) '0'
    let fraction := padded.drop whole
    padded.take whole ++ ['.'] ++ (if fraction = [] then ['0'] else fraction)
  else if -5 ≤ lead ∧ lead < 0 then
    ['0', '.'] ++ List.replicate ((-lead).toNat - 1) '0' ++ digits
  else
    let fraction := digits.drop 1
    let exponent := Number.natText lead.natAbs
    digits.take 1 ++ (if fraction = [] then [] else '.' :: fraction) ++
      ['e', if lead < 0 then '-' else '+'] ++
      List.replicate (2 - exponent.length) '0' ++ exponent

/-- The magnitude in decimal. -/
def magnitudeText (q : Rat) : List Char :=
  if q = 0 then ['0', '.', '0']
  else
    let (n, place) := shortest q
    let (digits, zeros) := dropZeros (Number.natText n)
    placeDigits digits (place + zeros + (digits.length : Int) - 1)

/-- **The number in decimal**, always with a decimal point or an exponent. -/
def text (x : Binary64) : List Char :=
  if x.negative then '-' :: magnitudeText x.magnitude else magnitudeText x.magnitude

/-! ## Reading a decimal step by step -/

/-- The largest power of ten that is below the largest double. -/
def largestStep : Nat := 308

/-- A rounded magnitude scaled by a power of ten, at most `largestStep` places at a time; every
intermediate result and every power of ten is rounded.  `none` when it grows too large.  The fuel
counts the steps downwards. -/
def scale? : Nat → Rat → Int → Option Rat
  | fuel, q, e =>
    if e.natAbs ≤ largestStep then do
      let p ← round? (power 10 e.natAbs)
      if 0 ≤ e then round? (q * p) else round? (q / p)
    else if q = 0 then some 0
    else if 0 ≤ e then none
    else
      match fuel with
      | 0 => some 0
      | fuel + 1 => do
        let p ← round? (power 10 largestStep)
        scale? fuel (← round? (q / p)) (e + largestStep)

/-- **The double that a decimal significand and a power of ten stand for**: the significand is
rounded first and then scaled.  Two large steps down take any 64-bit significand to zero. -/
def ofDecimal? (negative : Bool) (significand : Nat) (e : Int) : Option Binary64 := do
  let q ← round? significand
  let r ← scale? 4 q e
  some ⟨negative, r⟩

/-- The number as a rational, which forgets the sign of zero. -/
def toRat (x : Binary64) : Rat := if x.negative then -x.magnitude else x.magnitude

end Binary64

end ExamPress
