import ExamPress.Text.Shorten

/-!
# What can be wrong with a JSON text

A fault is a cause and the place in the text where it was noticed.  While reading, the place is
kept as the part of the text that was still unread, together with how many bytes of it had been
looked at; only at the end is it turned into a line and a column.

## What is here

* `Json.Cause` — the causes, `Json.Cause.message` their wording, and `Json.Cause.isEnd` whether
  the text just stopped too early;
* `Json.Fault` — a cause and the unread text;
* `Json.Position` — a line and a column, and `Json.position` which computes them.
-/

set_option autoImplicit false

namespace ExamPress.Json

/-- The ways in which a text fails to be JSON. -/
inductive Cause
  | endInList
  | endInObject
  | endInString
  | endInValue
  | expectedColon
  | expectedCommaInList
  | expectedCommaInObject
  | expectedWord
  | expectedValue
  | invalidEscape
  | invalidNumber
  | numberOutOfRange
  | controlCharacter
  | keyNotString
  | loneSurrogate
  | trailingComma
  | trailingCharacters
  | brokenSurrogatePair
  | tooDeep
  deriving DecidableEq

namespace Cause

/-- The text ended where more was needed. -/
def isEnd : Cause → Bool
  | endInList | endInObject | endInString | endInValue => true
  | _ => false

/-- The wording of a cause. -/
def message : Cause → String
  | endInList => "EOF while parsing a list"
  | endInObject => "EOF while parsing an object"
  | endInString => "EOF while parsing a string"
  | endInValue => "EOF while parsing a value"
  | expectedColon => "expected `:`"
  | expectedCommaInList => "expected `,` or `]`"
  | expectedCommaInObject => "expected `,` or `\x7d`"
  | expectedWord => "expected ident"
  | expectedValue => "expected value"
  | invalidEscape => "invalid escape"
  | invalidNumber => "invalid number"
  | numberOutOfRange => "number out of range"
  | controlCharacter => "control character (\\u0000-\\u001F) found while parsing a string"
  | keyNotString => "key must be a string"
  | loneSurrogate => "lone leading surrogate in hex escape"
  | trailingComma => "trailing comma"
  | trailingCharacters => "trailing characters"
  | brokenSurrogatePair => "unexpected end of hex escape"
  | tooDeep => "recursion limit exceeded"

end Cause

/-- A cause, the text that was unread when it was noticed, and how many bytes of that text had
been looked at. -/
structure Fault where
  cause : Cause
  unread : List Char
  ahead : Nat

namespace Fault

/-- A fault noticed between the text that was read and the text that was not. -/
def here (cause : Cause) (unread : List Char) : Fault := ⟨cause, unread, 0⟩

/-- A fault noticed by looking at the next byte. -/
def next (cause : Cause) (unread : List Char) : Fault := ⟨cause, unread, 1⟩

end Fault

/-- A place in a text: lines are counted from one, columns are the bytes before the place on its
line. -/
structure Position where
  line : Nat
  column : Nat
  deriving DecidableEq

/-- The bytes of a text in UTF-8. -/
def byteCount (s : List Char) : Nat := s.foldr (fun c n => c.utf8Size + n) 0

/-- The place that lies `bytes` bytes further on in a text, but not beyond its end. -/
def advance (p : Position) : List Char → Nat → Position
  | [], _ => p
  | c :: s, bytes =>
    if bytes < c.utf8Size then ⟨p.line, p.column + bytes⟩
    else if c = '\n' then advance ⟨p.line + 1, 0⟩ s (bytes - 1)
    else advance ⟨p.line, p.column + c.utf8Size⟩ s (bytes - c.utf8Size)

/-- **The place of a fault**: how far the text had been read, and the bytes looked at after
that. -/
def position (text unread : List Char) (ahead : Nat) : Position :=
  advance ⟨1, 0⟩ text (byteCount text - byteCount unread + ahead)

end ExamPress.Json
