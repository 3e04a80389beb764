/-!
# Whole numbers in decimal

How whole numbers are written, and which spellings are read back: an optional sign and one or more
decimal digits, whose value lies in a given range.  Leading zeros are allowed.

## What is here

* `Number.natText`, `Number.intText` — the decimal digits, with a minus sign where needed;
* `Number.readNat?` — digits, after an optional plus sign;
* `Number.readInt?` — digits, after an optional plus or minus sign;
* `Number.readInt64?`, `Number.readWord64?` — the same with the range of 64-bit words.
-/

set_option autoImplicit false

namespace ExamPress.Number

/-- The decimal digits of a natural number. -/
def natText (n : Nat) : List Char := Nat.toDigits 10 n

/-- The decimal digits of a whole number, after a minus sign if it is negative. -/
def intText : Int → List Char
  | .ofNat n => natText n
  | .negSucc n => '-' :: natText (n + 1)

/-- The value of one or more decimal digits. -/
def digitsValue? (s : List Char) : Option Nat :=
  if s ≠ [] ∧ s.all Char.isDigit then some (Nat.ofDigitChars 10 s 0) else none

theorem isDigit_of_mem_natText {n : Nat} {c : Char} (h : c ∈ natText n) : c.isDigit = true :=
  Nat.isDigit_of_mem_toDigits (by decide) (by decide) h

/-- What is neither a digit nor the minus sign does not stand in a whole number. -/
theorem not_mem_intText {c : Char} (hdigit : c.isDigit = false) (hminus : c ≠ '-') (i : Int) :
    c ∉ intText i := by
  have hnat : ∀ n, c ∉ natText n := fun n hmem => by
    rw [isDigit_of_mem_natText hmem] at hdigit
    cases hdigit
  cases i with
  | ofNat n => exact hnat n
  | negSucc n => simp [intText, hminus, hnat]

/-- Digits are read back as the number that they were written for. -/
theorem digitsValue?_natText (n : Nat) : digitsValue? (natText n) = some n := by
  have hall : (natText n).all Char.isDigit = true := by
    rw [List.all_eq_true]
    exact fun c hc => isDigit_of_mem_natText hc
  rw [digitsValue?, if_pos ⟨Nat.toDigits_ne_nil, hall⟩]
  simp [natText]

/-- A natural number: digits, after an optional plus sign. -/
def readNat? : List Char → Option Nat
  | '+' :: s => digitsValue? s
  | s => digitsValue? s

theorem readNat?_natText (n : Nat) : readNat? (natText n) = some n := by
  rw [readNat?]
  · exact digitsValue?_natText n
  · intro s hs
    exact absurd (isDigit_of_mem_natText (hs ▸ List.mem_cons_self)) (by decide)

/-- A whole number: digits, after an optional plus or minus sign. -/
def readInt? : List Char → Option Int
  | '+' :: s => (digitsValue? s).map Int.ofNat
  | '-' :: s => (digitsValue? s).map fun n => -(n : Int)
  | s => (digitsValue? s).map Int.ofNat

/-- Digits are read as their value, as no sign stands before them. -/
theorem readInt?_of_digitsValue? {s : List Char} {n : Nat} (h : digitsValue? s = some n) :
    readInt? s = some (n : Int) := by
  have hsign {c : Char} {t : List Char} (hc : c.isDigit = false) : s ≠ c :: t := by
    rintro rfl
    simp [digitsValue?, hc] at h
  rw [readInt?, h]
  · rfl
  · exact fun t => hsign (by decide)
  · exact fun t => hsign (by decide)

theorem readInt?_natText (n : Nat) : readInt? (natText n) = some (n : Int) :=
  readInt?_of_digitsValue? (digitsValue?_natText n)

/-- **A whole number is read back** from its decimal text. -/
theorem readInt?_intText (n : Int) : readInt? (intText n) = some n := by
  cases n with
  | ofNat n => exact readInt?_natText n
  | negSucc n =>
    rw [intText, readInt?, digitsValue?_natText]
    rfl

/-- A whole number that fits a signed 64-bit word. -/
def readInt64? (s : List Char) : Option Int64 :=
  (readInt? s).bind fun n =>
    if Int64.minValue.toInt ≤ n ∧ n ≤ Int64.maxValue.toInt then some (Int64.ofInt n) else none

/-- A natural number that fits an unsigned 64-bit word. -/
def readWord64? (s : List Char) : Option Nat :=
  (readNat? s).filter (· < UInt64.size)

end ExamPress.Number
