import ExamPress.Template.Grammar

/-!
# Tags

The tags between braces, from their first brace to their last.  A tilde next to the braces takes the
blanks on that side of the tag away.

## What is here

* `Template.Tag` — a tag with what it does to the blanks around it, `Template.Tag.Kind` — what it
  stands for;
* `Template.tag` — the reader of a tag other than those around raw text;
* `Template.rawBlock` — a helper around raw text.
-/

set_option autoImplicit false

namespace ExamPress.Template

/-- What a tag stands for. -/
inductive Tag.Kind
  | print (head : Head)
  | comment
  /-- The start of a block, with the names that it gives. -/
  | openBlock (call : Call) (names : List String)
  /-- The start of the body of a decorator. -/
  | openDecorator (call : Call)
  /-- The start of the body that is passed to a part. -/
  | openPart (name : PartName) (call : Call)
  /-- What is to be done otherwise, possibly on another condition. -/
  | otherwise (condition : Option (Call × List String))
  | close (name : String)
  | decorator (call : Call)
  | part (name : PartName) (call : Call)

/-- **A tag.** -/
structure Tag where
  kind : Tag.Kind
  trimBefore : Bool := false
  trimAfter : Bool := false

/-- What the two braces hold, with the tildes next to them. -/
def braced (kind : Reader Tag.Kind) : Reader Tag := do
  word "\x7b\x7b"
  let trimBefore ← optional (token "~")
  let kind ← kind
  let trimAfter ← optional (token "~")
  token "\x7d\x7d"
  pure { kind, trimBefore, trimAfter }

/-- The beginning of the other branch of a block. -/
def otherwiseMark : Reader Unit := token "else" <|> token "^"

/-- The other branch, without a condition. -/
def otherwiseTag : Reader Tag := braced do
  otherwiseMark
  pure (.otherwise none)

/-- The other branch, on a condition. -/
def otherwiseIfTag : Reader Tag := braced do
  otherwiseMark
  pure (.otherwise (some (← callLine)))

/-- A value. -/
def printTag : Reader Tag := braced do pure (.print (← head))

/-- A value between three braces, with the tildes inside them. -/
def tripleTag : Reader Tag := do
  word "\x7b\x7b\x7b"
  let trimBefore ← optional (token "~")
  let h ← head
  let trimAfter ← optional (token "~")
  token "\x7d\x7d\x7d"
  pure { kind := .print h, trimBefore, trimAfter }

/-- A value between braces inside the braces. -/
def innerBraceTag : Reader Tag := braced do
  token "\x7b"
  let h ← head
  token "\x7d"
  pure (.print h)

/-- A value behind an ampersand. -/
def ampersandTag : Reader Tag := braced do
  token "&"
  pure (.print (← valueHead))

/-- The start of a block. -/
def openBlockTag : Reader Tag := braced do
  token "#"
  let (call, names) ← callLine
  pure (.openBlock call names)

/-- The start of the body of a decorator. -/
def openDecoratorTag : Reader Tag := braced do
  token "#"
  token "*"
  pure (.openDecorator (← callLine).1)

/-- The start of the body that is passed to a part. -/
def openPartTag : Reader Tag := braced do
  token "#"
  token ">"
  let (name, call) ← partLine
  pure (.openPart name call)

/-- The end of a block, which need not be named. -/
def closeTag : Reader Tag := braced do
  token "/"
  skip
  pure (.close (← partIdentifier <|> pure ""))

/-- A decorator without a body. -/
def decoratorTag : Reader Tag := braced do
  token "*"
  pure (.decorator (← callLine).1)

/-- A part. -/
def partTag : Reader Tag := braced do
  token ">"
  let (name, call) ← partLine
  pure (.part name call)

/-- The text up to the given characters, which are read too. -/
def upTo (w : String) : Reader Unit := fun s =>
  let rec go : List Char → Option (List Char)
    | [] => none
    | c :: s => if w.toList.isPrefixOf (c :: s) then some ((c :: s).drop w.length) else go s
  (go s).map fun s => ((), s)

/-- A comment, which may hold braces when it begins and ends with two hyphens. -/
def commentTag : Reader Tag := do
  word "\x7b\x7b"
  token "!"
  (do token "--"; upTo "--\x7d\x7d") <|> upTo "\x7d\x7d"
  pure { kind := .comment }

/-- **A tag.** -/
def tag : Reader Tag :=
  otherwiseTag <|> otherwiseIfTag <|> printTag <|> tripleTag <|> innerBraceTag <|> ampersandTag <|>
    openBlockTag <|> commentTag <|> decoratorTag <|> openDecoratorTag <|> partTag <|> openPartTag <|>
    closeTag

/-! ## Raw text -/

/-- A tag between four braces. -/
def rawTag (kind : Reader Tag.Kind) : Reader Tag := do
  word "\x7b\x7b\x7b\x7b"
  let trimBefore ← optional (token "~")
  let kind ← kind
  let trimAfter ← optional (token "~")
  token "\x7d\x7d\x7d\x7d"
  pure { kind, trimBefore, trimAfter }

/-- The start of a block of raw text. -/
def openRawTag : Reader Tag := rawTag do
  let (call, names) ← callLine
  pure (.openBlock call names)

/-- The end of a block of raw text. -/
def closeRawTag : Reader Tag := rawTag do
  token "/"
  skip
  pure (.close (← identifier <|> pure ""))

end ExamPress.Template
