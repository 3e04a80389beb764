import ExamPress.Template.Helper

/-!
# Filling a template

The elements of a template are shown one after the other, each in its surroundings.  A part is known
from its definition on, up to the end of the scope that it is defined in.  A part is filled where it
is used, in a scope of its own, and the body that is passed to it is filled before it.  Since a part
may use itself, the depth of parts within parts is bounded.

## What is here

* `Template.evaluate` — the value of an argument;
* `Template.Setting` — the surroundings of an element, with the body passed to the part around it;
* `Template.Progress` — what is known from the elements before: the parts, above all;
* `Template.fillElement`, `Template.fillEach` — the text of an element, and of a list of them;
* `Template.fill` — the text of a template for given data.
-/

set_option autoImplicit false

namespace ExamPress.Template

open ExamPress.Json (Value)

/-! ## Arguments -/

mutual

/-- **The value of an argument.**  The arguments of a call are evaluated before its helper is looked
for; a helper that makes no value makes the empty text. -/
def evaluate (s : Surroundings) : Argument → Except Reason Operand
  | .literal value => .ok (.ofValue (value.getD .null))
  | .reference r => s.resolve r
  | .call name args options => do
    let args ← evaluateAll s args
    let options ← evaluateOptions s options
    match Helper.ofName? name with
    | none => .error (.unknownHelper name)
    | some h =>
      match ← h.value? { args, options } with
      | some v => .ok (.ofValue v)
      | none => do
        let _ ← h.effect { args, options }
        .ok (.ofValue (.string ""))

/-- The values of arguments. -/
def evaluateAll (s : Surroundings) : List Argument → Except Reason (List Operand)
  | [] => .ok []
  | a :: args => do
    let o ← evaluate s a
    .ok (o :: (← evaluateAll s args))

/-- The values of options. -/
def evaluateOptions (s : Surroundings) :
    List (String × Argument) → Except Reason (List (String × Operand))
  | [] => .ok []
  | (name, a) :: options => do
    let o ← evaluate s a
    .ok ((name, o) :: (← evaluateOptions s options))

end

/-- The effect of a helper that is called in a block or on its own. -/
def callEffect (s : Surroundings) (c : Call) (names : List String) (hasBody hasOtherwise : Bool) :
    Except Reason Effect := do
  let args ← evaluateAll s c.args
  let options ← evaluateOptions s c.options
  match Helper.ofName? c.name with
  | none => .error (.unknownHelper c.name)
  | some h => h.effect { args, options, names, hasBody, hasOtherwise }

/-- The text of a helper without a block. -/
def callText (s : Surroundings) (c : Call) : Except Reason (List Char) := do
  match ← callEffect s c [] false false with
  | .print text => .ok text
  | _ => .ok []

/-- The text of a value that must be there. -/
def operandText (o : Operand) : Except Reason (List Char) :=
  match o.found with
  | some v => .ok (shown v)
  | none => .error (.missingValue o.raw)

/-- **The text that a tag shows.** -/
def headText (s : Surroundings) : Head → Except Reason (List Char)
  | .call c => callText s c
  | .reference r =>
    match Helper.ofName? r.raw with
    | some _ => callText s { name := r.raw }
    | none => do operandText (← s.resolve r)
  | .computed c => do
    let o ← evaluate s c.toArgument
    let name := String.ofList (shown o.value)
    match Helper.ofName? name with
    | some _ => callText s { name }
    | none => operandText o

/-! ## Parts -/

/-- The parts that are known, the latest first. -/
abbrev Parts := List (String × List Element)

/-- **The surroundings of an element** in a template, with the text of the body that was passed to
the part around it. -/
structure Setting extends Surroundings where
  /-- The whole template, which is a part too. -/
  whole : List Element
  passed : Option (List Char) := none

/-- The setting inside a scope. -/
def Setting.enter (s : Setting) (scope : Scope) : Setting :=
  { s with toSurroundings := s.toSurroundings.enter scope }

/-- **What is known from the elements before.** -/
structure Progress where
  parts : Parts := []
  /-- Is this the text of the whole template, and has no body been filled in it? -/
  beginning : Bool

/-- The progress inside a body. -/
def Progress.inBody (p : Progress) : Progress := { p with beginning := false }

/-- The progress behind a scope: the parts that are defined in it are forgotten. -/
def Progress.leave (inner outer : Progress) : Progress := { inner with parts := outer.parts }

/-- The part that stands for the body passed to the part around it. -/
def bodyName : String := "@partial-block"

/-- What a decorator defines. -/
def define (s : Surroundings) (parts : Parts) (c : Call) (body : Option (List Element)) :
    Except Reason Parts := do
  let args ← evaluateAll s c.args
  let _ ← evaluateOptions s c.options
  if c.name ≠ "inline" then .error (.unknownDecorator c.name)
  else
    match args with
    | [] => .error (.missingArgument "inline" 0)
    | o :: _ =>
      match o.value, body with
      | .string name, some body => .ok ((name, body) :: parts)
      | .string _, none => .error .noBody
      | _, _ => .error .nameNotText

/-- The entries of a value: those of an object, the numbered items of a list, the numbered characters
of a text.  Other values have none. -/
def entriesOf : Value → List (String × Value)
  | .object entries => entries
  | .array items => numbered items
  | .string s => numbered (s.toList.map fun c => .string (String.singleton c))
  | _ => []
where
  /-- Values under their numbers, in the order of keys. -/
  numbered (items : List Value) : List (String × Value) :=
    (items.mapIdx fun i v => (String.ofList (Number.natText i), v)).foldl
      (fun entries e => setMember e.1 e.2 entries) []

/-- The object of the entries of a value with some of them set. -/
def setMembers (v : Value) (options : List (String × Operand)) : Value :=
  .object (options.foldl (fun entries o => setMember o.1 o.2.value entries) (entriesOf v))

/-- **The scope of a part.**  It is about the first argument, or else about what the scope around it
is about.  Options are set in that, and are names that the part gives. -/
def partScope (s : Surroundings) (args : List Operand) (options : List (String × Operand)) :
    Except Reason Scope := do
  let subject := (args.head?.map Operand.source).getD (s.subject 0)
  if options.isEmpty then .ok { subject }
  else do
    let about ← s.follow subject [] none
    .ok
      { subject := .value (setMembers about.value options)
        names := options.map fun o => (o.1, .value o.2.value) }

/-- The name of a part. -/
def partName (s : Surroundings) : PartName → Except Reason String
  | .fixed name => .ok name
  | .computed c => do .ok (String.ofList (shown (← evaluate s c.toArgument).value))

/-- The name of a part and the setting inside it, where no body has been passed to it yet.  At its
beginning a template may not include itself. -/
def enterPart (s : Setting) (p : Progress) (name : PartName) (args : List Argument)
    (options : List (String × Argument)) : Except Reason (String × Setting) := do
  let name ← partName s.toSurroundings name
  let args ← evaluateAll s.toSurroundings args
  let options ← evaluateOptions s.toSurroundings options
  if p.beginning && name = ownName then .error .ownPart
  else .ok (name, s.enter (← partScope s.toSurroundings args options))

/-! ## Elements -/

/-- A text, and what is known behind it. -/
abbrev Filled := Except Fault (List Char × Progress)

/-- How a list of elements is filled. -/
abbrev Filler := Setting → Progress → List Element → Filled

/-- Something wrong at a place that is not known yet. -/
def placeless {α : Type} (r : Except Reason α) : Except Fault α :=
  r.mapError fun reason => { reason }

/-- **The text of a part**, in the setting inside it, filled by the given means.  It may be the body
passed to the part around it, a part that is known, or the whole template; the body that is passed to
a part stands in for it when there is none. -/
def fillPart (fill : Filler) (s : Setting) (p : Progress) (name : String)
    (body : Option (List Char)) : Except Fault (List Char) :=
  let inside := { s with passed := body }
  if name = bodyName then
    match s.passed.or body with
    | some text => .ok text
    | none => .error { reason := .noBodyPassed }
  else
    match p.parts.lookup name with
    | some elements => (fill inside p.inBody elements).map Prod.fst
    | none =>
      if name = ownName then (fill inside { p with beginning := true } s.whole).map Prod.fst
      else
        match body with
        | some text => .ok text
        | none => .error { reason := .unknownPart name }

/-- The body of a block, once for each scope. -/
def fillRounds (round : Setting → Progress → Filled) (s : Setting) (p : Progress) :
    List Scope → Filled
  | [] => .ok ([], p)
  | scope :: scopes => do
    let (text, p) ← round (s.enter scope) p
    let (more, p) ← fillRounds round s p scopes
    .ok (text ++ more, p)

mutual

/-- **The text of an element**, where parts are filled by the given means. -/
def fillElement (fill : Filler) (s : Setting) (p : Progress) : Element → Filled
  | .text text => .ok (text, p)
  | .comment => .ok ([], p)
  | .print h => do .ok (← placeless (headText s.toSurroundings h), p)
  | .block call names body none => do
    match ← placeless (callEffect s.toSurroundings call names true false) with
    | .print text => .ok (text, p)
    | .body => fillEach fill s p.inBody body
    | .rounds scopes => do
      let (text, q) ← fillRounds (fun s p => fillEach fill s p.inBody body) s p scopes
      .ok (text, q.leave p)
    | .otherwise => .ok ([], p)
  | .block call names body (some otherwise) => do
    match ← placeless (callEffect s.toSurroundings call names true true) with
    | .print text => .ok (text, p)
    | .body => fillEach fill s p.inBody body
    | .rounds scopes => do
      let (text, q) ← fillRounds (fun s p => fillEach fill s p.inBody body) s p scopes
      .ok (text, q.leave p)
    | .otherwise => fillEach fill s p.inBody otherwise
  | .decorator call body => do
    .ok ([], { p with parts := ← placeless (define s.toSurroundings p.parts call body) })
  | .part name args options none => do
    let (name, inside) ← placeless (enterPart s p name args options)
    .ok (← fillPart fill inside p name none, p)
  | .part name args options (some body) => do
    let (name, inside) ← placeless (enterPart s p name args options)
    let (text, q) ← fillEach fill inside p.inBody body
    .ok (← fillPart fill inside q name (some text), p)
  | .marked mark element => (fillElement fill s p element).mapError (Fault.within mark)

/-- **The text of a list of elements**, where parts are filled by the given means. -/
def fillEach (fill : Filler) (s : Setting) (p : Progress) : List Element → Filled
  | [] => .ok ([], p)
  | e :: rest => do
    let (text, p) ← fillElement fill s p e
    let (more, p) ← fillEach fill s p rest
    .ok (text ++ more, p)

end

/-- The text of a list of elements in which parts are nested at most so deep. -/
def fillNested : Nat → Filler
  | 0 => fun _ _ _ => .error { reason := .endless }
  | depth + 1 => fillEach (fillNested depth)

/-- How deep parts may be nested. -/
def partLimit : Nat := 1000

/-- **The text of a template for given data.** -/
def fill (elements : List Element) (data : Value) : Except Fault (List Char) :=
  let setting : Setting := { data, scopes := [{ subject := .place [] }], whole := elements }
  (fillNested partLimit setting { beginning := true } elements).map Prod.fst

end ExamPress.Template
