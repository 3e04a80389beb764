import ExamPress.Json.Fault
import ExamPress.Json.Value

/-!
# Reading JSON

Readers take the text that is left and return what they read with the text that is left after it.
The loops over lists and objects are written once, for any reader of their items, because the
outermost object of a document is read by rules of its own.

## What is here

* `Json.skipBlanks` and `Json.readWord` — the space between values, and the three words;
* `Json.readNumber` — numbers;
* `Json.readString` — strings, from after the opening quotation mark;
* `Json.readItems`, `Json.readMembers` — what follows `[` and `{`;
* `Json.readValue` — a value nested at most so deep.
-/

set_option autoImplicit false

namespace ExamPress.Json

/-- A reader takes the text that is left and returns what it read with the text left after it, or
the fault. -/
abbrev Reader (α : Type) := List Char → Except Fault (α × List Char)

/-- The characters allowed between values. -/
def isSpace (c : Char) : Bool := c = ' ' || c = '\t' || c = '\n' || c = '\r'

/-- The text from its next character that is not a space. -/
def skipBlanks (s : List Char) : List Char := s.dropWhile isSpace

/-- The rest of a word that began with the right letter. -/
def readWord {α : Type} (result : α) : List Char → Reader α
  | [], s => .ok (result, s)
  | _ :: _, [] => .error (.here .endInValue [])
  | w :: word, c :: s =>
    if c = w then readWord result word s else .error (.next .expectedWord (c :: s))

/-! ## Numbers -/

/-- Adds decimal digits to a number as long as it fits a 64-bit word; returns the digits that did
not get in. -/
def absorb (n : Nat) : List Char → Nat × List Char
  | [] => (n, [])
  | c :: digits =>
    let n' := 10 * n + (c.toNat - '0'.toNat)
    if n' < UInt64.size then absorb n' digits else (n, c :: digits)

/-- The value of a decimal significand and exponent, with the text after it. -/
def finishFloat (negative : Bool) (n : Nat) (e : Int) : Reader Number := fun s =>
  match Binary64.ofDecimal? negative n e with
  | some x => .ok (.float x, s)
  | none => .error (.here .numberOutOfRange s)

/-- The digits of an exponent after its first.  An exponent beyond a 32-bit word makes the number
zero, or too large, whatever follows. -/
def readExponentDigits (negative down : Bool) (n : Nat) (start : Int) (e : Nat) :
    Reader Number
  | [] => finishFloat negative n (if down then start - e else start + e) []
  | c :: s =>
    if c.isDigit then
      let e' := 10 * e + (c.toNat - '0'.toNat)
      if e' < 2 ^ 31 then readExponentDigits negative down n start e' s
      else if n ≠ 0 ∧ !down then .error (.here .numberOutOfRange s)
      else .ok (.float ⟨negative, 0⟩, s.dropWhile Char.isDigit)
    else finishFloat negative n (if down then start - e else start + e) (c :: s)

/-- An exponent, from after its letter and its sign. -/
def readExponentFrom (negative down : Bool) (n : Nat) (start : Int) : Reader Number
  | [] => .error (.here .endInValue [])
  | c :: s =>
    if c.isDigit then readExponentDigits negative down n start (c.toNat - '0'.toNat) s
    else .error (.next .invalidNumber (c :: s))

/-- An exponent, from after its letter. -/
def readExponent (negative : Bool) (n : Nat) (start : Int) : Reader Number
  | '+' :: s => readExponentFrom negative false n start s
  | '-' :: s => readExponentFrom negative true n start s
  | s => readExponentFrom negative false n start s

/-- What may follow the digits of a number that is already a float: an exponent, or its end. -/
def readTail (negative : Bool) (n : Nat) (e : Int) : Reader Number
  | 'e' :: s => readExponent negative n e s
  | 'E' :: s => readExponent negative n e s
  | s => finishFloat negative n e s

/-- A fraction, from after its point.  At least one digit is required; digits that do not fit the
significand any more are passed over. -/
def readFraction (negative : Bool) (n : Nat) (e : Int) : Reader Number := fun s =>
  let digits := s.takeWhile Char.isDigit
  let rest := s.dropWhile Char.isDigit
  if digits = [] then
    .error (.next (if rest = [] then .endInValue else .invalidNumber) rest)
  else
    let (n, ignored) := absorb n digits
    readTail negative n (e - ((digits.length - ignored.length : Nat) : Int)) rest

/-- A whole number that fits: negative ones must fit a signed word and zero has no sign, else the
number is a float. -/
def wholeNumber (negative : Bool) (n : Nat) : Number :=
  if negative then
    if n = 0 ∨ (-n : Int) < Int64.minValue.toInt then
      .float ⟨true, (Binary64.round? (.ofInt n)).getD 0⟩
    else .integer (-n)
  else .integer n

/-- What follows the digits before the point. -/
def readWhole (negative : Bool) (digits : List Char) : Reader Number := fun s =>
  let (n, ignored) := absorb 0 digits
  match s with
  | '.' :: s => readFraction negative n ignored.length s
  | s =>
    if ignored = [] then
      match s with
      | 'e' :: s => readExponent negative n 0 s
      | 'E' :: s => readExponent negative n 0 s
      | s => .ok (wholeNumber negative n, s)
    else readTail negative n ignored.length s

/-- **A number**, from after its minus sign if it has one. -/
def readNumber (negative : Bool) : Reader Number
  | [] => .error (.here .endInValue [])
  | '0' :: s =>
    match s with
    | c :: _ => if c.isDigit then .error (.next .invalidNumber s) else readWhole negative ['0'] s
    | [] => readWhole negative ['0'] []
  | c :: s =>
    if c.isDigit then
      readWhole negative (c :: s.takeWhile Char.isDigit) (s.dropWhile Char.isDigit)
    else .error (.next .invalidNumber (c :: s))

/-! ## Strings -/

/-- The value of a hexadecimal digit of either case. -/
def hexValue? (c : Char) : Option Nat :=
  if c.isDigit then some (c.toNat - '0'.toNat)
  else if 'a' ≤ c ∧ c ≤ 'f' then some (c.toNat - 'a'.toNat + 10)
  else if 'A' ≤ c ∧ c ≤ 'F' then some (c.toNat - 'A'.toNat + 10)
  else none

/-- The value of four hexadecimal digits. -/
def hexValue4? (a b c d : Char) : Option Nat := do
  let a ← hexValue? a
  let b ← hexValue? b
  let c ← hexValue? c
  let d ← hexValue? d
  some (((a * 16 + b) * 16 + c) * 16 + d)

/-- The fault of four bytes that are not hexadecimal digits, or of fewer than four bytes. -/
def hexFault (s : List Char) : Fault :=
  if byteCount (s.take 4) < 4 then .here .endInString [] else ⟨.invalidEscape, s, 4⟩

/-- Four hexadecimal digits. -/
def readHex4 : Reader Nat := fun s =>
  match s with
  | a :: b :: c :: d :: rest =>
    match hexValue4? a b c d with
    | some n => .ok (n, rest)
    | none => .error (hexFault s)
  | _ => .error (hexFault s)

/-- The second half of a surrogate pair, from after the first. -/
def readTrailing (lead : Nat) : Reader Char
  | [] => .error (.here .endInString [])
  | c :: s =>
    if c ≠ '\\' then .error (.next .brokenSurrogatePair (c :: s))
    else
      match s with
      | [] => .error (.here .endInString [])
      | d :: s =>
        if d ≠ 'u' then .error (.next .brokenSurrogatePair (d :: s))
        else do
          let (n, s) ← readHex4 s
          if 0xDC00 ≤ n ∧ n ≤ 0xDFFF then
            .ok (Char.ofNat (0x10000 + (lead - 0xD800) * 0x400 + (n - 0xDC00)), s)
          else .error (.here .loneSurrogate s)

/-- A character given by its number, from after the letter `u`. -/
def readUnicode : Reader Char := fun s => do
  let (n, s) ← readHex4 s
  if 0xDC00 ≤ n ∧ n ≤ 0xDFFF then .error (.here .loneSurrogate s)
  else if 0xD800 ≤ n ∧ n ≤ 0xDBFF then readTrailing n s
  else .ok (Char.ofNat n, s)

/-- An escaped character, from after the backslash. -/
def readEscape : Reader Char
  | [] => .error (.here .endInString [])
  | c :: s =>
    if c = '"' then .ok ('"', s)
    else if c = '\\' then .ok ('\\', s)
    else if c = '/' then .ok ('/', s)
    else if c = 'b' then .ok ('\x08', s)
    else if c = 'f' then .ok ('\x0c', s)
    else if c = 'n' then .ok ('\n', s)
    else if c = 'r' then .ok ('\r', s)
    else if c = 't' then .ok ('\t', s)
    else if c = 'u' then readUnicode s
    else .error (.next .invalidEscape (c :: s))

/-- The characters up to the closing quotation mark.  Each step takes at least one character, so
the fuel is never used up when it exceeds the length of the text. -/
def readChars : Nat → Reader (List Char)
  | 0, s => .error (.here .endInString s)
  | _, [] => .error (.here .endInString [])
  | fuel + 1, c :: s =>
    if c = '"' then .ok ([], s)
    else if c = '\\' then do
      let (d, s) ← readEscape s
      let (cs, s) ← readChars fuel s
      .ok (d :: cs, s)
    else if c.toNat < 0x20 then .error (.next .controlCharacter (c :: s))
    else do
      let (cs, s) ← readChars fuel s
      .ok (c :: cs, s)

/-- **A string**, from after its opening quotation mark. -/
def readString : Reader String := fun s => do
  let (cs, s) ← readChars (s.length + 1) s
  .ok (String.ofList cs, s)

/-! ## Lists and objects -/

/-- The items of a list after the first, up to the closing bracket. -/
def readMoreItems {α : Type} (item : Reader α) : Nat → Reader (List α)
  | 0, s => .error (.next .endInList s)
  | fuel + 1, s =>
    match skipBlanks s with
    | [] => .error (.next .endInList [])
    | ']' :: s => .ok ([], s)
    | ',' :: s =>
      match skipBlanks s with
      | [] => .error (.next .endInValue [])
      | ']' :: s => .error (.next .trailingComma (']' :: s))
      | s => do
        let (x, s) ← item s
        let (xs, s) ← readMoreItems item fuel s
        .ok (x :: xs, s)
    | s => .error (.next .expectedCommaInList s)

/-- **The items of a list**, from after the opening bracket to after the closing one. -/
def readItems {α : Type} (item : Reader α) : Reader (List α) := fun s =>
  match skipBlanks s with
  | [] => .error (.next .endInList [])
  | ']' :: s => .ok ([], s)
  | s => do
    let (x, s) ← item s
    let (xs, s) ← readMoreItems item (s.length + 1) s
    .ok (x :: xs, s)

/-- The colon between a key and its value. -/
def readColon : Reader Unit := fun s =>
  match skipBlanks s with
  | [] => .error (.next .endInObject [])
  | ':' :: s => .ok ((), s)
  | s => .error (.next .expectedColon s)

/-- The entries of an object after the first, up to the closing brace.  What an entry adds to the
result is up to `entry`, which gets the result so far, the key, and the text after the key. -/
def readMoreMembers {σ ε : Type} (fault : Fault → ε)
    (entry : σ → String → List Char → Except ε (σ × List Char)) :
    Nat → σ → List Char → Except ε (σ × List Char)
  | 0, _, s => .error (fault (.next .endInObject s))
  | fuel + 1, acc, s =>
    match skipBlanks s with
    | [] => .error (fault (.next .endInObject []))
    | '\x7d' :: s => .ok (acc, s)
    | ',' :: s =>
      match skipBlanks s with
      | [] => .error (fault (.next .endInValue []))
      | '\x7d' :: s => .error (fault (.next .trailingComma ('\x7d' :: s)))
      | '"' :: s => do
        let (key, s) ← (readString s).mapError fault
        let (acc, s) ← entry acc key s
        readMoreMembers fault entry fuel acc s
      | s => .error (fault (.next .keyNotString s))
    | s => .error (fault (.next .expectedCommaInObject s))

/-- **The entries of an object**, from after the opening brace to after the closing one. -/
def readMembers {σ ε : Type} (fault : Fault → ε)
    (entry : σ → String → List Char → Except ε (σ × List Char)) (start : σ) (s : List Char) :
    Except ε (σ × List Char) :=
  match skipBlanks s with
  | [] => .error (fault (.next .endInObject []))
  | '\x7d' :: s => .ok (start, s)
  | '"' :: s => do
    let (key, s) ← (readString s).mapError fault
    let (acc, s) ← entry start key s
    readMoreMembers fault entry (s.length + 1) acc s
  | s => .error (fault (.next .keyNotString s))

/-- An entry as it is: its key and any value. -/
def readEntry (value : Reader Value) (acc : List (String × Value)) (key : String) :
    Reader (List (String × Value)) := fun s => do
  let (_, s) ← readColon s
  let (v, s) ← value s
  .ok (acc ++ [(key, v)], s)

/-! ## Values -/

/-- One value, where `inner` reads the values inside lists and objects, or nothing does when the
nesting must not go deeper. -/
def readNested (inner : Option (Reader Value)) : Reader Value := fun s =>
  match skipBlanks s with
  | [] => .error (.next .endInValue [])
  | c :: s =>
    if c = 'n' then readWord .null "ull".toList s
    else if c = 't' then readWord (.bool true) "rue".toList s
    else if c = 'f' then readWord (.bool false) "alse".toList s
    else if c = '-' then (readNumber true s).map fun r => (.number r.1, r.2)
    else if c.isDigit then (readNumber false (c :: s)).map fun r => (.number r.1, r.2)
    else if c = '"' then (readString s).map fun r => (.string r.1, r.2)
    else if c = '[' then
      match inner with
      | none => .error (.next .tooDeep (c :: s))
      | some inner => (readItems inner s).map fun r => (.array r.1, r.2)
    else if c = '\x7b' then
      match inner with
      | none => .error (.next .tooDeep (c :: s))
      | some inner =>
        (readMembers id (readEntry inner) [] s).map fun r => (.object r.1, r.2)
    else .error (.next .expectedValue (c :: s))

/-- **A value** in which lists and objects are nested at most `depth` deep. -/
def readValue : Nat → Reader Value
  | 0 => readNested none
  | depth + 1 => readNested (some (readValue depth))

/-- Nothing but spaces may follow. -/
def expectEnd (s : List Char) : Except Fault Unit :=
  match skipBlanks s with
  | [] => .ok ()
  | s => .error (.next .trailingCharacters s)

/-- The greatest nesting that is read. -/
def depthLimit : Nat := 127

/-- A text that holds one value and nothing else. -/
def parse (s : List Char) : Except Fault Value := do
  let (v, s) ← readValue depthLimit s
  expectEnd s
  .ok v

end ExamPress.Json
