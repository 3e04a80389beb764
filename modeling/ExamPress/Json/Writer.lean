import ExamPress.Json.Value

/-!
# Writing JSON

The compact text of a value: no blanks, keys in the order of the entries, and of the characters in
a string only those escaped that must be.

## What is here

* `Json.escapedChar`, `Json.stringText` — a string between quotation marks;
* `Json.Value.compact` — the text of a value.
-/

set_option autoImplicit false

namespace ExamPress.Json

/-- One hexadecimal digit, lower case. -/
def hexDigit (n : Nat) : Char := Nat.digitChar n

/-- One character inside a string.  The quotation mark, the backslash and the control characters
below U+0020 are escaped, five of the controls by a letter and the others by four digits. -/
def escapedChar (c : Char) : List Char :=
  if c = '"' then ['\\', '"']
  else if c = '\\' then ['\\', '\\']
  else if c = '\x08' then ['\\', 'b']
  else if c = '\x0c' then ['\\', 'f']
  else if c = '\n' then ['\\', 'n']
  else if c = '\r' then ['\\', 'r']
  else if c = '\t' then ['\\', 't']
  else if c.toNat < 0x20 then
    ['\\', 'u', '0', '0', hexDigit (c.toNat / 16), hexDigit (c.toNat % 16)]
  else [c]

/-- A string between quotation marks. -/
def stringText (s : String) : List Char := '"' :: s.toList.flatMap escapedChar ++ ['"']

/-- A number. -/
def Number.text : Number → List Char
  | .integer n => ExamPress.Number.intText n
  | .float x => x.text

namespace Value

mutual

/-- **The compact text of a value.** -/
def compact : Value → List Char
  | .null => "null".toList
  | .bool true => "true".toList
  | .bool false => "false".toList
  | .number n => n.text
  | .string s => stringText s
  | .array items => '[' :: compactItems items ++ [']']
  | .object entries => '\x7b' :: compactEntries entries ++ ['\x7d']

/-- The items of a list, with commas between them. -/
def compactItems : List Value → List Char
  | [] => []
  | [v] => compact v
  | v :: w :: items => compact v ++ ',' :: compactItems (w :: items)

/-- The entries of an object, with commas between them. -/
def compactEntries : List (String × Value) → List Char
  | [] => []
  | [(k, v)] => stringText k ++ ':' :: compact v
  | (k, v) :: e :: entries =>
    stringText k ++ ':' :: (compact v ++ ',' :: compactEntries (e :: entries))

end

end Value

end ExamPress.Json
