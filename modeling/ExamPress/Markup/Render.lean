import ExamPress.Document.Node
import ExamPress.Number.Decimal
import ExamPress.Text.Lines

/-!
# Setting a document

The markup of a question in the vocabulary of the *exam* document class: paragraphs, formulas,
and lists as the parts of the question.  What is blank leaves no markup, and what is wrong with a
formula is left to the typesetter.

How a node is set depends on two things around it: whether it stands inside a part of a question,
and whether a paragraph comes right after it.

The name of a unit or a lesson is put into a comment of the source, so it must stay on one line:
the markup of its nodes is cut into lines, and the lines that are not blank are put side by side.

## What is here

* `Markup.PartLevel` — parts, or the parts of parts; there is no third level;
* `Markup.Context` — the level, and what comes next;
* `Markup.inlineFormula`, `Markup.displayFormula`, `Markup.paragraph`, `Markup.list`,
  `Markup.item` — the markup of one node from the markup of what is in it;
* `Markup.node` — the markup of a node in its context;
* `Markup.stream` — nodes below one another, each of which sees whether a paragraph comes next;
* `Markup.render` — a whole question;
* `Markup.labelLines`, `Markup.label` — a name on one line.
-/

set_option autoImplicit false

namespace ExamPress.Markup

open ExamPress.Document

/-! ## Where a node is set -/

/-- The level of the parts of a question. -/
inductive PartLevel
  | parts
  | subparts
  deriving DecidableEq

namespace PartLevel

/-- The level inside a part.  The second level is also the last. -/
def inside : PartLevel → PartLevel
  | _ => subparts

/-- The environment that holds the parts of a level. -/
def environment : PartLevel → List Char
  | parts => "parts".toList
  | subparts => "subparts".toList

/-- The command that begins a part of a level. -/
def command : PartLevel → List Char
  | parts => "\\part".toList
  | subparts => "\\subpart".toList

end PartLevel

/-- What is around a node. -/
structure Context where
  /-- The level of the parts that stand here. -/
  level : PartLevel := .parts
  /-- Does a paragraph come next? -/
  beforeParagraph : Bool := false
  deriving DecidableEq

/-! ## One node -/

/-- The command that begins a question. -/
def questionMark : List Char := "\\question ".toList

/-- Begins an environment. -/
def beginEnv (name : List Char) : List Char := "\\begin\x7b".toList ++ name ++ ['\x7d']

/-- Ends an environment. -/
def endEnv (name : List Char) : List Char := "\\end\x7b".toList ++ name ++ ['\x7d']

/-- Does a text occur in another? -/
def occursIn (t : List Char) : List Char → Bool
  | [] => t = []
  | c :: s => t.isPrefixOf (c :: s) || occursIn t s

/-- A formula within a line, between dollar signs unless it is blank. -/
def inlineFormula (code : List Char) : List Char :=
  if Text.allBlank code then [] else ['$'] ++ code ++ ['$']

/-- A formula that brings its own alignment. -/
def isAligned (code : List Char) : Bool :=
  occursIn (beginEnv "align".toList) code || occursIn (beginEnv "align*".toList) code

/-- A formula on a line of its own: an equation, unless it is blank or brings its own
alignment. -/
def displayFormula (code : List Char) : List Char :=
  if Text.allBlank code then []
  else if isAligned code then code
  else beginEnv "equation".toList ++ ['\n'] ++ code ++ ['\n'] ++ endEnv "equation".toList

/-- A paragraph of parts that stand side by side, with an empty line after it when a paragraph
comes next. -/
def paragraph (beforeParagraph : Bool) (parts : List (List Char)) : List Char :=
  let text := Text.join [' '] parts
  if Text.allBlank text then []
  else if beforeParagraph then text ++ ['\n'] else text

/-- Items in columns. -/
def columns (n : UInt32) (items : List Char) : List Char :=
  beginEnv "multicols".toList ++ ['\x7b'] ++ Number.natText n.toNat ++ ['\x7d', '\n'] ++ items ++
    ['\n'] ++ endEnv "multicols".toList

/-- A list of items, each indented, in the environment of its level. -/
def list (attrs : ListAttrs) (level : PartLevel) (items : List (List Char)) : List Char :=
  let items := Text.join ['\n'] (items.map ([' ', ' '] ++ ·))
  if Text.allBlank items then []
  else
    let layout := match attrs.orientation with
      | .vertical => columns attrs.gridCols items
      | .horizontal => items
    beginEnv level.environment ++ ['\n'] ++ layout ++ ['\n'] ++ endEnv level.environment

/-- An item: the command of its level, its text, and before them the words that introduce it. -/
def item (level : PartLevel) (intro body : List Char) : List Char :=
  if Text.allBlank body then []
  else
    let part := level.command ++ [' '] ++ body
    if intro = [] then part else "\\uplevel\x7b".toList ++ intro ++ ['\x7d', '\n'] ++ part

/-! ## Trees -/

mutual

/-- **The markup of a node.** -/
def node (ctx : Context) : Node → List Char
  | .document content => questionMark ++ Text.join ['\n'] (stream .parts content)
  | .paragraph content => paragraph ctx.beforeParagraph (apart .parts content)
  | .text t => t.toList
  | .inlineFormula attrs => inlineFormula attrs.source.toList
  | .displayFormula attrs => displayFormula attrs.source.toList
  | .orderedList attrs content => list attrs ctx.level (apart ctx.level content)
  | .listItem (.listItemIntro intro :: content) =>
    item ctx.level (paragraph false (apart .parts intro))
      (Text.join ['\n'] (stream ctx.level.inside content))
  | .listItem content => item ctx.level [] (Text.join ['\n'] (stream ctx.level.inside content))
  | .listItemIntro _ => []
  | .unknown => []

/-- The markup of nodes below one another. -/
def stream (level : PartLevel) : List Node → List (List Char)
  | [] => []
  | n :: nodes =>
    let beforeParagraph := match nodes with
      | [] => false
      | next :: _ => next.isParagraph
    node { level, beforeParagraph } n :: stream level nodes

/-- The markup of nodes that do not look at each other. -/
def apart (level : PartLevel) : List Node → List (List Char)
  | [] => []
  | n :: nodes => node { level } n :: apart level nodes

end

/-- **The markup of a question.**  Any node can be set by itself. -/
def render (n : Node) : String := String.ofList (node {} n)

/-! ## Names -/

/-- The lines of a name that hold something, without the blanks at their ends. -/
def labelLines (n : Node) : List (List Char) :=
  ((apart .parts n.children).flatMap fun part => (Text.lines part).map Text.trim).filter (· ≠ [])

/-- **A name on one line.** -/
def label (n : Node) : String := String.ofList (Text.join [' '] (labelLines n))

end ExamPress.Markup
