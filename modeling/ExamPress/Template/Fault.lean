import ExamPress.Number.Decimal
import ExamPress.Template.Syntax
import ExamPress.Text.Shorten

/-!
# What can go wrong while a template is filled

## What is here

* `Template.Reason` — what is wrong, and `Reason.message` its wording;
* `Template.Fault` — the same with the place of the tag that it happened in.
-/

set_option autoImplicit false

namespace ExamPress.Template

/-- **What is wrong.** -/
inductive Reason
  /-- There is no such value; its spelling is known unless the value is the result of a helper. -/
  | missingValue (raw : Option String)
  | unknownHelper (name : String)
  | unknownPart (name : String)
  /-- No body was passed to the part that shows it. -/
  | noBodyPassed
  | unknownDecorator (name : String)
  /-- A helper or a decorator has too few arguments. -/
  | missingArgument (name : String) (index : Nat)
  /-- An argument of a helper has no value. -/
  | missingNamed (name argument : String)
  /-- The item of a list is named by a text that is no number. -/
  | itemName (name : String)
  /-- The template includes itself at its beginning, before its first block. -/
  | ownPart
  /-- A decorator that needs a body has none. -/
  | noBody
  /-- The name of a part is no text. -/
  | nameNotText
  /-- A message has a level that does not exist. -/
  | unknownLevel (level : String)
  /-- Parts include each other without end. -/
  | endless
  deriving DecidableEq

/-- The wording of what is wrong. -/
def Reason.message : Reason → String
  | missingValue raw =>
    "Failed to access variable in strict mode " ++
      match raw with
      | some raw => "Some(" ++ Text.quoted raw ++ ")"
      | none => "None"
  | unknownHelper name => "Helper not found " ++ name
  | unknownPart name => "Partial not found " ++ name
  | noBodyPassed => "Partial block cound not be found"
  | unknownDecorator name => "Decorator not found " ++ name
  | missingArgument name index =>
    "Helper/Decorator " ++ name ++ " param at index " ++ String.ofList (Number.natText index) ++
      " required but not found"
  | missingNamed name argument =>
    "Helper/Decorator " ++ name ++ " param with name " ++ argument ++ " required but not found"
  | itemName name => "Cannot access array/vector with string index, " ++ name
  | ownPart => "Can not include current template in partial"
  | noBody => "Block content required"
  | nameNotText => "Invalid param type, String expected"
  | unknownLevel level => "Invalid logging level: " ++ level
  | endless => "Partials are nested too deeply"

/-- The name under which a template is known to itself. -/
def ownName : String := "exam"

/-- **What is wrong, and where**: the place of the innermost tag around it whose place is known. -/
structure Fault where
  reason : Reason
  mark : Option Mark := none
  deriving DecidableEq

namespace Fault

/-- The same fault seen from a tag around it. -/
def within (m : Mark) (f : Fault) : Fault := { f with mark := f.mark.or (some m) }

/-- **The wording of a fault.** -/
def message (f : Fault) : String :=
  match f.mark with
  | some m =>
    "Error rendering " ++ Text.quoted ownName ++ " line " ++ String.ofList (Number.natText m.line) ++
      ", col " ++ String.ofList (Number.natText m.column) ++ ": " ++ f.reason.message
  | none => f.reason.message

end Fault

end ExamPress.Template
