import ExamPress.Toml.Text
import ExamPress.Toml.Value

/-!
# TOML numbers, truth values and dates

A value that is not quoted is the longest run of characters that are no punctuation; what it is
depends on its whole text.

## What is here

* `Toml.readScalarText` — the run of characters;
* `Toml.integer?`, `Toml.float?`, `Toml.isDatetime` — what it can be;
* `Toml.scalar?` — the value.
-/

set_option autoImplicit false

namespace ExamPress.Toml

/-- The characters that end an unquoted value. -/
def isDelimiter (c : Char) : Bool :=
  [' ', '\t', '\n', '\r', ',', '[', ']', '\x7b', '\x7d', '#', '='].contains c

/-! ## Numbers -/

/-- Digits with single underscores between them, without the underscores.  The flag says whether
an underscore may come next. -/
def ungroup (isDigit : Char → Bool) : Bool → List Char → Option (List Char)
  | afterDigit, [] => if afterDigit then some [] else none
  | afterDigit, c :: s =>
    if c = '_' then
      if afterDigit then
        match s with
        | d :: _ => if isDigit d then ungroup isDigit false s else none
        | [] => none
      else none
    else if isDigit c then (ungroup isDigit true s).map (c :: ·)
    else none

/-- One or more decimal digits, underscores left out. -/
def digits? (s : List Char) : Option (List Char) := ungroup Char.isDigit false s

/-- Decimal digits without superfluous leading zeros. -/
def whole? (s : List Char) : Option (List Char) :=
  (digits? s).filter fun digits => digits = ['0'] || digits.head? ≠ some '0'

/-- A sign, and the text after it. -/
def splitSign : List Char → Bool × List Char
  | '+' :: s => (false, s)
  | '-' :: s => (true, s)
  | s => (false, s)

/-- The value of digits in a base. -/
def baseValue? (isDigit : Char → Bool) (base : Nat) (s : List Char) : Option Int := do
  let digits ← ungroup isDigit false s
  let values ← digits.mapM Json.hexValue?
  some ((values.foldl (fun n d => base * n + d) 0 : Nat) : Int)

/-- The digits of base sixteen. -/
def isHexDigit (c : Char) : Bool := (Json.hexValue? c).isSome

/-- An integer: decimal with an optional sign, or in base two, eight or sixteen without one. -/
def integer? (s : List Char) : Option Int :=
  match s with
  | '0' :: 'x' :: s => baseValue? isHexDigit 16 s
  | '0' :: 'o' :: s => baseValue? (fun c => '0' ≤ c && c ≤ '7') 8 s
  | '0' :: 'b' :: s => baseValue? (fun c => c = '0' || c = '1') 2 s
  | s => do
    let (negative, s) := splitSign s
    let n ← Number.digitsValue? (← whole? s)
    some (if negative then -(n : Int) else n)

/-- An exponent after its letter: digits after an optional sign. -/
def exponent? (s : List Char) : Option Int := do
  let (negative, s) := splitSign s
  let n ← Number.digitsValue? (← digits? s)
  some (if negative then -(n : Int) else n)

/-- Is a decimal significand with an exponent small enough for a double?  Exponents far beyond
any double are decided without computing the power. -/
def fitsDouble (n : Nat) (e : Int) : Bool :=
  if n = 0 then true
  else
    let lead := e + (Number.natText n).length
    if lead < -400 then true
    else if 400 < lead then false
    else (Binary64.round? ((n : Rat) * Binary64.power 10 e)).isSome

/-- A float: digits with a fraction or an exponent or both, or one of the words for infinity and
for no number.  The result says whether it fits a double. -/
def float? (s : List Char) : Option Bool := do
  let (_, s) := splitSign s
  if s = "inf".toList ∨ s = "nan".toList then some true
  else
    let isMark (c : Char) := c = 'e' || c = 'E'
    let mantissa := s.takeWhile (!isMark ·)
    let exponent ← match s.drop mantissa.length with
      | [] => some 0
      | _ :: s => exponent? s
    let before ← whole? (mantissa.takeWhile (· ≠ '.'))
    let after ← match mantissa.dropWhile (· ≠ '.') with
      | [] => if s = mantissa then none else some []
      | _ :: s => digits? s
    let n ← Number.digitsValue? (before ++ after)
    some (fitsDouble n (exponent - (after.length : Int)))

/-! ## Dates and times -/

/-- So many digits, their value, and the text after them. -/
def readDigits (count : Nat) (s : List Char) : Option (Nat × List Char) := do
  let digits := s.take count
  if digits.length < count then none
  else some (← Number.digitsValue? digits, s.drop count)

/-- A number of two digits that is not above a bound. -/
def readTwo (most : Nat) (s : List Char) : Option (Nat × List Char) :=
  (readDigits 2 s).filter (·.1 ≤ most)

/-- The text after a character that must come next. -/
def expect (c : Char) : List Char → Option (List Char)
  | d :: s => if d = c then some s else none
  | [] => none

/-- The number of days in a month. -/
def daysIn (year month : Nat) : Nat :=
  if month = 2 then
    if year % 4 = 0 ∧ (year % 100 ≠ 0 ∨ year % 400 = 0) then 29 else 28
  else if month = 4 ∨ month = 6 ∨ month = 9 ∨ month = 11 then 30
  else 31

/-- The text after a date. -/
def readDate (s : List Char) : Option (List Char) := do
  let (year, s) ← readDigits 4 s
  let (month, s) ← readTwo 12 (← expect '-' s)
  let (day, s) ← readTwo 31 (← expect '-' s)
  if 1 ≤ month ∧ 1 ≤ day ∧ day ≤ daysIn year month then some s else none

/-- The text after a time of day.  The seconds may be left out, and may have a fraction. -/
def readTime (s : List Char) : Option (List Char) := do
  let (_, s) ← readTwo 23 s
  let (_, s) ← readTwo 59 (← expect ':' s)
  match s with
  | ':' :: s => do
    let (_, s) ← readTwo 60 s
    match s with
    | '.' :: s =>
      let fraction := s.takeWhile Char.isDigit
      if fraction = [] then none else some (s.drop fraction.length)
    | s => some s
  | s => some s

/-- An offset from universal time, or nothing, up to the end of the text. -/
def isOffset (s : List Char) : Bool :=
  match s with
  | [] => true
  | ['Z'] | ['z'] => true
  | c :: s =>
    (c = '+' || c = '-') &&
      (do
        let (_, s) ← readTwo 23 s
        let (_, s) ← readTwo 59 (← expect ':' s)
        if s = [] then some () else none).isSome

/-- A date, a time, or both, and then also an offset. -/
def isDatetime (s : List Char) : Bool :=
  match readDate s with
  | some [] => true
  | some (c :: rest) =>
    (c = 'T' || c = 't' || c = ' ') &&
      (match readTime rest with
      | some offset => isOffset offset
      | none => false)
  | none => readTime s = some []

/-! ## Unquoted values -/

/-- Has a text the shape of a date, which a blank and a time may follow? -/
def isDateShaped (s : List Char) : Bool :=
  s.length = 10 && s[4]? = some '-' && s[7]? = some '-'

/-- The text of an unquoted value, and the text after it. -/
def readScalarText (s : List Char) : List Char × List Char :=
  let run := s.takeWhile (!isDelimiter ·)
  let rest := s.drop run.length
  match rest with
  | ' ' :: c :: more =>
    if isDateShaped run && c.isDigit then
      let time := (c :: more).takeWhile (!isDelimiter ·)
      (run ++ ' ' :: time, (c :: more).drop time.length)
    else (run, rest)
  | rest => (run, rest)

/-- **The value of an unquoted text.** -/
def scalar? (s : List Char) : Option Value :=
  if s = "true".toList then some (.boolean true)
  else if s = "false".toList then some (.boolean false)
  else
    match integer? s with
    | some n => some (.integer n)
    | none =>
      match float? s with
      | some fits => some (.float fits)
      | none => if isDatetime s then some .datetime else none

end ExamPress.Toml
