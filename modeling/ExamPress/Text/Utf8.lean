/-!
# Reading bytes that should be UTF-8

The output of another program is bytes, and what is not UTF-8 in it must still be shown.  The
reader below takes one byte at a time.  When a byte cannot follow, everything read since the last
whole character is given up as one replacement character, and the byte is looked at afresh.

## What is here

* `Text.Utf8.State` — how much of a character has been read, and which byte may come next;
* `Text.Utf8.scan` — the characters of a byte sequence, `none` for each part given up;
* `Text.decodeLossy` — the text with U+FFFD for each part given up.
-/

set_option autoImplicit false

namespace ExamPress.Text

namespace Utf8

/-- Where the reader stands.  Inside a character it knows the bits read so far, how many bytes are
missing, and the range that the next byte has to lie in: the range of the second byte excludes
overlong forms, surrogates and numbers above U+10FFFF. -/
inductive State
  | start
  | within (bits : Nat) (missing : Nat) (low high : UInt8)

/-- What a byte means at the start of a character: a whole character, the first byte of a longer
one, or nothing. -/
def first (b : UInt8) : List (Option Char) × State :=
  if b < 0x80 then ([some (Char.ofNat b.toNat)], .start)
  else if b < 0xC2 then ([none], .start)
  else if b < 0xE0 then ([], .within (b.toNat - 0xC0) 1 0x80 0xBF)
  else if b < 0xF0 then
    ([], .within (b.toNat - 0xE0) 2 (if b = 0xE0 then 0xA0 else 0x80)
      (if b = 0xED then 0x9F else 0xBF))
  else if b < 0xF5 then
    ([], .within (b.toNat - 0xF0) 3 (if b = 0xF0 then 0x90 else 0x80)
      (if b = 0xF4 then 0x8F else 0xBF))
  else ([none], .start)

/-- One byte: the characters that it completes or gives up, and where the reader stands then. -/
def step (st : State) (b : UInt8) : List (Option Char) × State :=
  match st with
  | .start => first b
  | .within bits missing low high =>
    if low ≤ b && b ≤ high then
      let bits := bits * 64 + (b.toNat - 0x80)
      if missing ≤ 1 then ([some (Char.ofNat bits)], .start)
      else ([], .within bits (missing - 1) 0x80 0xBF)
    else
      let next := first b
      (none :: next.1, next.2)

/-- The characters of the bytes, with `none` for each sequence that is not a character. -/
def scan (st : State) : List UInt8 → List (Option Char)
  | [] =>
    match st with
    | .start => []
    | .within .. => [none]
  | b :: bytes =>
    let next := step st b
    next.1 ++ scan next.2 bytes

end Utf8

/-- **The bytes as text**, with one replacement character for every sequence that does not make a
character. -/
def decodeLossy (bytes : ByteArray) : String :=
  String.ofList ((Utf8.scan .start bytes.data.toList).map (·.getD '\uFFFD'))

end ExamPress.Text
