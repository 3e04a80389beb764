import ExamPress.Template.Piece

/-!
# Nesting

The pieces of a source are put together to elements.  A block, and everything else that has a body,
is open from its first tag to its last; the blocks that are open form a stack.

## What is here

* `Template.Refusal` — why a source is not a template;
* `Template.Frame` — a block that is open;
* `Template.nest` — the elements of a sequence of pieces;
* `Template.ofSource` — the elements of a source.
-/

set_option autoImplicit false

namespace ExamPress.Template

/-- **Why a source is not a template.** -/
inductive Refusal
  /-- The tags cannot be read, or do not match. -/
  | malformed
  /-- An argument is written out in a way that has no value. -/
  | unreadableArgument
  /-- A block, or raw text, is closed under another name. -/
  | closedBlock
  /-- The body of a decorator or of a part is closed under another name. -/
  | closedBody
  deriving DecidableEq

/-- What is open. -/
inductive Opening
  | block (call : Call) (names : List String)
  | decorator (call : Call)
  | part (name : PartName) (call : Call)

/-- A branch of a block that has been read: its condition and its body. -/
structure Branch where
  call : Call
  names : List String
  body : List Element

/-- **A block that is open.** -/
structure Frame where
  opening : Opening
  mark : Mark
  /-- What stands before the block, last first. -/
  before : List Element
  /-- The branches of the block that have been read, last first. -/
  branches : List Branch := []
  /-- The condition of the branch that is being read, none for the last one. -/
  condition : Option (Call × List String) := none

/-- How far the pieces have been put together: the open blocks, innermost first, what stands before
the next piece in the innermost one, last first, and the first reason to refuse the source although
its tags match. -/
structure Nest where
  frames : List Frame := []
  before : List Element := []
  refusal : Option Refusal := none

namespace Nest

/-- One more element. -/
def push (n : Nest) (e : Element) : Nest := { n with before := e :: n.before }

/-- One more reason to refuse the source. -/
def note (n : Nest) (r : Refusal) (fine : Bool) : Nest :=
  if fine then n else { n with refusal := n.refusal.or (some r) }

/-- One more open block. -/
def enter (n : Nest) (mark : Mark) (opening : Opening) (condition : Option (Call × List String)) :
    Nest :=
  { n with
    frames := { opening, mark, before := n.before, condition } :: n.frames
    before := [] }

/-- The block made of branches, last first, and what is to be done when none of the conditions
holds. -/
def block (last : Option (List Element)) : List Branch → Option (List Element)
  | [] => last
  | b :: earlier => block (some [.block b.call b.names b.body last]) earlier

/-- The other branch of the innermost block, which must not be in its last branch already. -/
def otherwise (n : Nest) (condition : Option (Call × List String)) : Option Nest :=
  match n.frames with
  | f :: frames =>
    match f.condition with
    | some (call, names) => some
      { n with
        frames := { f with
          branches := { call, names, body := n.before.reverse } :: f.branches
          condition } :: frames
        before := [] }
    | none => none
  | [] => none

/-- Is this a name, as blocks have them? -/
def isName (name : String) : Bool := name.toList.all isSymbol

/-- The end of the innermost block.  The body of a decorator or of a part may be closed without a
name. -/
def close (n : Nest) (name : String) : Option Nest :=
  match n.frames with
  | [] => none
  | f :: frames =>
    let body := n.before.reverse
    let leave (elements : List Element) : Nest :=
      { n with
        frames
        before := elements.reverseAux f.before }
    let marked (e : Element) : List Element := [.marked f.mark e]
    match f.opening with
    | .block call _ =>
      if isName name then
        let elements :=
          match f.condition with
          | some (call, names) => block none ({ call, names, body } :: f.branches)
          | none => block (some body) f.branches
        some ((leave ((elements.getD []).flatMap marked)).note .closedBlock (call.name = name))
      else none
    | .decorator call =>
      if isName name then
        some ((leave (marked (.decorator call (some body)))).note .closedBody
          (name = "" || call.name = name))
      else none
    | .part part call =>
      let fine := match part with
        | .fixed opened => opened = name
        | .computed _ => false
      some ((leave (marked (.part part call.args call.options (some body)))).note .closedBody
        (name = "" || fine))

/-- Are the arguments of what a tag shows readable? -/
def headReadable : Head → Bool
  | .call c | .computed c => c.readable
  | .reference _ => true

/-- Are the arguments in the name of a part readable? -/
def partReadable : PartName → Bool
  | .fixed _ => true
  | .computed c => c.readable

/-- **One more tag.** -/
def tag (n : Nest) (mark : Mark) : Tag.Kind → Option Nest
  | .print h => some ((n.push (.marked mark (.print h))).note .unreadableArgument (headReadable h))
  | .comment => some (n.push .comment)
  | .openBlock call names =>
    some ((n.enter mark (.block call names) (some (call, names))).note .unreadableArgument
      call.readable)
  | .openDecorator call =>
    some ((n.enter mark (.decorator call) none).note .unreadableArgument call.readable)
  | .openPart name call =>
    some ((n.enter mark (.part name call) none).note .unreadableArgument
      (partReadable name && call.readable))
  | .otherwise condition => do
    let fine := match condition with
      | some (call, _) => call.readable
      | none => true
    (n.otherwise condition).map fun n => n.note .unreadableArgument fine
  | .close name => n.close name
  | .decorator call =>
    some ((n.push (.marked mark (.decorator call none))).note .unreadableArgument call.readable)
  | .part name call =>
    some ((n.push (.marked mark (.part name call.args call.options none))).note .unreadableArgument
      (partReadable name && call.readable))

end Nest

/-- Puts pieces together. -/
def nestFrom (n : Nest) : List Piece → Option Nest
  | [] => some n
  | .text s :: rest => nestFrom (n.push (.text s)) rest
  | .gap s :: rest => nestFrom (n.push (.text s)) rest
  | .tag mark _ t :: rest => do nestFrom (← n.tag mark t.kind) rest

/-- **The elements of a sequence of pieces.**  That the tags match is asked first. -/
def nest (pieces : List Piece) : Except Refusal (List Element) :=
  match nestFrom {} pieces with
  | some { frames := [], before, refusal := none } => .ok before.reverse
  | some { frames := [], before := _, refusal := some r } => .error r
  | _ => .error .malformed

/-- **The elements of a source.** -/
def ofSource (source : List Char) : Except Refusal (List Element) :=
  match pieces? source with
  | some pieces => nest (cutBlanks false false pieces)
  | none => .error .malformed

end ExamPress.Template
