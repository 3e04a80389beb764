import ExamPress.Json.Value
import ExamPress.Text.Shorten

/-!
# What can be wrong with a stored document

A text may be good JSON and still not be a document.

## What is here

* `Document.Found` — what stood in a place, as a message names it;
* `Document.Wanted` — what should have stood there;
* `Document.Problem` — the problems, and `Document.Problem.message` their wording.
-/

set_option autoImplicit false

namespace ExamPress.Document

open ExamPress.Json (Value)

/-- What stood in a place.  Lists and objects are not looked into. -/
inductive Found
  | null
  | bool (b : Bool)
  | integer (n : Int)
  | float (x : Binary64)
  | string (s : String)
  | sequence
  | map
  deriving DecidableEq

namespace Found

/-- What a value is. -/
def ofValue : Value → Found
  | .null => null
  | .bool b => bool b
  | .number (.integer n) => integer n
  | .number (.float x) => float x
  | .string s => string s
  | .array _ => sequence
  | .object _ => map

/-- The wording of what stood in a place. -/
def message : Found → String
  | null => "null"
  | bool b => "boolean `" ++ (if b then "true" else "false") ++ "`"
  | integer n => "integer `" ++ String.ofList (Number.intText n) ++ "`"
  | float x => "floating point `" ++ String.ofList x.text ++ "`"
  | string s => "string " ++ Text.quoted s
  | sequence => "sequence"
  | map => "map"

end Found

/-- What should have stood in a place. -/
inductive Wanted
  | tag
  | node
  | sequence
  | string
  | boolean
  | formulaAttrs
  | listAttrs
  | columnCount
  | orientation
  | nothing
  | singleEntry
  | items (n : Nat)
  deriving DecidableEq

/-- The wording of what should have stood in a place. -/
def Wanted.message : Wanted → String
  | tag => "variant identifier"
  | node => "internally tagged enum DocNode"
  | sequence => "a sequence"
  | string => "a string"
  | boolean => "a boolean"
  | formulaAttrs => "struct FormulaAttrs"
  | listAttrs => "struct ListAttrs"
  | columnCount => "u32"
  | orientation => "string or map"
  | nothing => "unit"
  | singleEntry => "map with a single key"
  | items n =>
    String.ofList (Number.natText n) ++ (if n = 1 then " element" else " elements") ++
      " in sequence"

/-- The ways in which a JSON value fails to be a document. -/
inductive Problem
  /-- A field that must be there is not. -/
  | missing (field : String)
  /-- A field is there twice. -/
  | repeated (field : String)
  /-- A value of the wrong kind. -/
  | wrongType (found : Found) (wanted : Wanted)
  /-- A value of the right kind that is not acceptable. -/
  | wrongValue (found : Found) (wanted : Wanted)
  /-- A list with too many items. -/
  | wrongLength (n : Nat) (wanted : Wanted)
  deriving DecidableEq

/-- The wording of a problem. -/
def Problem.message : Problem → String
  | missing field => "missing field `" ++ field ++ "`"
  | repeated field => "duplicate field `" ++ field ++ "`"
  | wrongType found wanted =>
    "invalid type: " ++ found.message ++ ", expected " ++ wanted.message
  | wrongValue found wanted =>
    "invalid value: " ++ found.message ++ ", expected " ++ wanted.message
  | wrongLength n wanted =>
    "invalid length " ++ String.ofList (Number.natText n) ++ ", expected " ++ wanted.message

end ExamPress.Document
