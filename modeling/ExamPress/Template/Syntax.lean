import ExamPress.Json.Value

/-!
# Templates

A template is a text with tags between double braces.  A tag shows a value, or opens, divides and
closes a block, or stands for a part of a template that is defined elsewhere.

## What is here

* `Template.Reference`, `Template.Argument`, `Template.Call` — what may be written inside a tag;
* `Template.Element` — a template is a list of these;
* `Template.Mark` — a place in the source of a template.
-/

set_option autoImplicit false

namespace ExamPress.Template

/-- A place in a source: its line and its column, counted from one. -/
structure Mark where
  line : Nat := 1
  column : Nat := 1
  deriving DecidableEq

/-- What a reference refers to. -/
inductive Target
  /-- A variable such as the index of a loop, from the scope so many levels up on outwards. -/
  | scopeVariable (level : Nat) (name : String)
  /-- A way down from the whole data. -/
  | absolute (names : List String)
  /-- A way down from what the scope so many levels up is about. -/
  | relative (up : Nat) (names : List String)
  deriving DecidableEq

/-- **A reference** to a value, together with its spelling. -/
structure Reference where
  raw : String
  target : Target
  deriving DecidableEq

/-- An argument. -/
inductive Argument
  /-- A value that is written out.  It is missing if its text is not JSON; a template with such an
  argument is refused. -/
  | literal (value : Option Json.Value)
  | reference (r : Reference)
  /-- The result of a helper, between parentheses. -/
  | call (name : String) (args : List Argument) (options : List (String × Argument))

namespace Argument

mutual

/-- Are two arguments the same? -/
def equal : Argument → Argument → Bool
  | literal v, literal w => v = w
  | reference r, reference q => r = q
  | call f args options, call g args' options' =>
    f = g && equalAll args args' && equalOptions options options'
  | _, _ => false

/-- Are two lists of arguments the same? -/
def equalAll : List Argument → List Argument → Bool
  | [], [] => true
  | a :: as, b :: bs => equal a b && equalAll as bs
  | _, _ => false

/-- Are two lists of options the same? -/
def equalOptions : List (String × Argument) → List (String × Argument) → Bool
  | [], [] => true
  | (k, a) :: as, (l, b) :: bs => k = l && equal a b && equalOptions as bs
  | _, _ => false

end

mutual

theorem equal_iff (a b : Argument) : equal a b = true ↔ a = b := by
  cases a <;> cases b <;> simp [equal, equalAll_iff, equalOptions_iff, and_assoc]

theorem equalAll_iff (as bs : List Argument) : equalAll as bs = true ↔ as = bs := by
  cases as <;> cases bs <;> simp [equalAll, equal_iff, equalAll_iff]

theorem equalOptions_iff :
    ∀ as bs : List (String × Argument), equalOptions as bs = true ↔ as = bs
  | [], [] | [], _ :: _ | _ :: _, [] => by simp [equalOptions]
  | (k, a) :: as, (l, b) :: bs => by simp [equalOptions, equal_iff a b, equalOptions_iff as bs]

end

instance : DecidableEq Argument := fun a b => decidable_of_iff _ (equal_iff a b)

end Argument

/-- A name with its arguments, some of them options with names of their own. -/
structure Call where
  name : String
  args : List Argument := []
  options : List (String × Argument) := []
  deriving DecidableEq

/-- The result of a call, as an argument. -/
def Call.toArgument (c : Call) : Argument := .call c.name c.args c.options

/-- What a tag shows. -/
inductive Head
  | call (c : Call)
  /-- A helper that needs no arguments, or else a value. -/
  | reference (r : Reference)
  /-- The result of a helper, itself taken for a name. -/
  | computed (c : Call)
  deriving DecidableEq

/-- The name of a part of a template. -/
inductive PartName
  | fixed (name : String)
  | computed (c : Call)
  deriving DecidableEq

/-- **A piece of a template.** -/
inductive Element
  | text (s : List Char)
  | comment
  | print (head : Head)
  /-- A block: its helper, the names it gives to what it works on, its body, and what is to be
  done otherwise. -/
  | block (call : Call) (names : List String) (body : List Element)
      (otherwise : Option (List Element))
  /-- A decorator, which may define its body as a part. -/
  | decorator (call : Call) (body : Option (List Element))
  /-- A part, with the body that is passed to it and stands in for it when it is not defined. -/
  | part (name : PartName) (args : List Argument) (options : List (String × Argument))
      (body : Option (List Element))
  /-- An element that starts at a known place. -/
  | marked (mark : Mark) (element : Element)

namespace Element

mutual

/-- Are two pieces of a template the same? -/
def equal : Element → Element → Bool
  | text s, text t => s = t
  | comment, comment => true
  | print h, print k => h = k
  | block c names body otherwise, block d names' body' otherwise' =>
    c = d && names = names' && equalAll body body' && equalBody otherwise otherwise'
  | decorator c body, decorator d body' => c = d && equalBody body body'
  | part name args options body, part name' args' options' body' =>
    name = name' && args = args' && options = options' && equalBody body body'
  | marked m e, marked n f => m = n && equal e f
  | _, _ => false

/-- Are two lists of pieces the same? -/
def equalAll : List Element → List Element → Bool
  | [], [] => true
  | e :: es, f :: fs => equal e f && equalAll es fs
  | _, _ => false

/-- Are two bodies the same, or both missing? -/
def equalBody : Option (List Element) → Option (List Element) → Bool
  | none, none => true
  | some es, some fs => equalAll es fs
  | _, _ => false

end

mutual

theorem equal_iff (e f : Element) : equal e f = true ↔ e = f := by
  cases e <;> cases f <;> simp [equal, equal_iff, equalAll_iff, equalBody_iff, and_assoc]

theorem equalAll_iff (es fs : List Element) : equalAll es fs = true ↔ es = fs := by
  cases es <;> cases fs <;> simp [equalAll, equal_iff, equalAll_iff]

theorem equalBody_iff (a b : Option (List Element)) : equalBody a b = true ↔ a = b := by
  cases a <;> cases b <;> simp [equalBody, equalAll_iff]

end

instance : DecidableEq Element := fun e f => decidable_of_iff _ (equal_iff e f)

end Element

/-! ## Arguments that can be read -/

mutual

/-- Has every literal in an argument a value? -/
def Argument.readable : Argument → Bool
  | .literal value => value.isSome
  | .reference _ => true
  | .call _ args options => allReadable args && optionsReadable options

/-- Has every literal in a list of arguments a value? -/
def allReadable : List Argument → Bool
  | [] => true
  | a :: args => a.readable && allReadable args

/-- Has every literal in a list of options a value? -/
def optionsReadable : List (String × Argument) → Bool
  | [] => true
  | (_, a) :: options => a.readable && optionsReadable options

end

/-- Has every literal in a call a value? -/
def Call.readable (c : Call) : Bool := allReadable c.args && optionsReadable c.options

end ExamPress.Template
