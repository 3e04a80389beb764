import ExamPress.Text.Printable

/-!
# Texts in messages

A message that shows a piece of its input cuts it where it should stay short, or puts it between
quotation marks, so that every character of it can be seen.

## What is here

* `Text.shorten` — a text that is cut;
* `Text.hexDigits` — a number in lower-case hexadecimal digits;
* `Text.quoted` — the text between quotation marks, escapes applied.
-/

set_option autoImplicit false

namespace ExamPress.Text

/-- At most so many characters of a text, with three points after them if any were left out. -/
def shorten (max : Nat) (s : String) : String :=
  if max < s.toList.length then String.ofList (s.toList.take max ++ "...".toList) else s

/-- The digits of a number in base sixteen, lower case, without leading zeros. -/
def hexDigits (n : Nat) : List Char := Nat.toDigits 16 n

/-- One character inside quotation marks.  Tab, line feed, carriage return and the null character
have short names, the quotation mark and the backslash are escaped, and a character that does not
print is given by its number. -/
def quotedChar (c : Char) : List Char :=
  if c = '\t' then ['\\', 't']
  else if c = '\n' then ['\\', 'n']
  else if c = '\r' then ['\\', 'r']
  else if c.toNat = 0 then ['\\', '0']
  else if c = '"' then ['\\', '"']
  else if c = '\\' then ['\\', '\\']
  else if isPrintable c then [c]
  else ['\\', 'u', '\x7b'] ++ hexDigits c.toNat ++ ['\x7d']

/-- **The text between quotation marks**, each character as `Text.quotedChar` writes it. -/
def quoted (s : String) : String :=
  String.ofList ('"' :: s.toList.flatMap quotedChar ++ ['"'])

end ExamPress.Text
