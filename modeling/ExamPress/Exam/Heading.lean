import ExamPress.Number.Decimal
import ExamPress.Text.Blank

/-!
# Headings

How an exam of a batch is called in messages, and how its file is called when no name is given for
it.

## What is here

* `Heading` — an exam of a batch, and `Heading.text` its name in messages;
* `Job.stem` — the name of a file for a title, in which nothing is left that leads elsewhere.
-/

set_option autoImplicit false

namespace ExamPress

/-- An exam of a batch: its number, counted from one, its title, and the path of its file. -/
structure Heading where
  number : Nat
  title : String
  output : String
  deriving DecidableEq

/-- The name of an exam in messages. -/
def Heading.text (h : Heading) : String :=
  "[试卷 #" ++ String.ofList (Number.natText h.number) ++ " " ++ h.title ++ "]"

/-! ## The name of a file -/

namespace Job

/-- The control characters: those below the space, the delete character, and the block after it. -/
def isControl (c : Char) : Bool := c.toNat < 0x20 || (0x7F ≤ c.toNat && c.toNat ≤ 0x9F)

/-- A character of a title in the name of a file: separators and controls are replaced. -/
def fileChar (c : Char) : Char := if c = '/' || c = '\\' || isControl c then '_' else c

/-- The name of a file for a title, without its extension. -/
def stem (title : String) : List Char :=
  let stem := Text.trim (title.toList.map fileChar)
  if stem = [] then "exam".toList else stem

end Job

end ExamPress
