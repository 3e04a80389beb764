import ExamPress.Template.Tag
import ExamPress.Text.Blank

/-!
# The pieces of a source

A source is a sequence of texts and tags.  The blanks next to some tags do not belong to the text:
a tilde takes all of them away, and a tag that has a line to itself, and shows nothing, takes the
rest of its line with it.

## What is here

* `Template.Piece` — a text, the blanks between two tags, or a tag;
* `Template.pieces?` — the pieces of a source, if all its tags can be read;
* `Template.cutBlanks` — the pieces without the blanks that do not belong to the text.
-/

set_option autoImplicit false

namespace ExamPress.Template

/-- **A piece of a source.** -/
inductive Piece
  | text (s : List Char)
  /-- Nothing but blanks between two tags. -/
  | gap (s : List Char)
  /-- A tag, where it starts, and whether it has its line to itself. -/
  | tag (mark : Mark) (alone : Bool) (tag : Tag)

/-! ## Places in the source -/

/-- The place after a character. -/
def Mark.after (m : Mark) (c : Char) : Mark :=
  if c = '\n' then { line := m.line + 1 } else { m with column := m.column + 1 }

/-- The blanks within a line. -/
def isIndent (c : Char) : Bool := c = ' ' || c = '\t'

/-- The characters that end a line. -/
def isLineEnd (c : Char) : Bool := c = '\n' || c = '\r'

/-- Where a reader of the source stands, and whether there is only indentation before it on its
line. -/
structure Spot where
  mark : Mark := {}
  indented : Bool := true

/-- The spot after a text. -/
def Spot.after (p : Spot) (s : List Char) : Spot :=
  s.foldl (fun p c =>
    { mark := p.mark.after c
      indented := if isLineEnd c then true else p.indented && isIndent c }) p

/-- Is there only indentation before the next line end? -/
def restOfLineBlank (s : List Char) : Bool :=
  match s.dropWhile isIndent with
  | [] => false
  | c :: _ => isLineEnd c

/-! ## Texts -/

/-- Do these characters come first? -/
def startsWith (w : String) (s : List Char) : Bool := w.toList.isPrefixOf s

/-- **An escape** at the front of a text: what it stands for, and the text after it.  One backslash
makes the braces behind it text.  Several of them in front of two braces stand for one fewer, and the
braces are not text. -/
def escape? (s : List Char) : Option (List Char × List Char) :=
  let slashes := s.takeWhile (· = '\\')
  let rest := s.dropWhile (· = '\\')
  if startsWith "\x7b\x7b" rest then
    match slashes with
    | [] => none
    | [_] =>
      let n := if startsWith "\x7b\x7b\x7b\x7b" rest then 4 else 2
      some (rest.take n, rest.drop n)
    | _ :: fewer => some (fewer, rest)
  else none

/-- The text up to the next `stop`, and the rest.  Each step takes at least one character, so the
fuel is never used up when it exceeds the length of the text. -/
def takeText (stop : String) : Nat → List Char → List Char × List Char
  | 0, s => ([], s)
  | _, [] => ([], [])
  | fuel + 1, c :: s =>
    match escape? (c :: s) with
    | some (text, rest) =>
      let r := takeText stop fuel rest
      (text ++ r.1, r.2)
    | none =>
      if startsWith stop (c :: s) then ([], c :: s)
      else
        let r := takeText stop fuel s
        (c :: r.1, r.2)

/-! ## The pieces -/

/-- Does a line end after a tag?  The end of the source ends it too, save after a part. -/
def Tag.endsLine (t : Tag) (rest : List Char) : Bool :=
  restOfLineBlank rest ||
    match t.kind with
    | .part .. => false
    | _ => rest = []

/-- A tag that starts at a spot, and the spot after it. -/
def placedTag (p : Spot) (t : Tag) (s rest : List Char) : Piece × Spot :=
  (.tag p.mark (p.indented && t.endsLine rest) t, p.after (s.take (s.length - rest.length)))

/-- A block of raw text: its first tag, its text, and its last tag. -/
def rawPieces? (p : Spot) (s : List Char) : Option (List Piece × Spot × List Char) := do
  let (openRaw, s₁) ← openRawTag s
  let s₂ := s₁.dropWhile isSpace
  let (text, s₃) := takeText "\x7b\x7b\x7b\x7b" (s₂.length + 1) s₂
  let (closeRaw, s₄) ← closeRawTag s₃
  let (first, p) := placedTag p openRaw s s₁
  let (last, p) := placedTag (p.after (s₁.take (s₁.length - s₃.length))) closeRaw s₃ s₄
  some ([first, .text text, last], p, s₄)

/-- The pieces from a tag on, or from the end of the source. -/
def piecesFrom? : Nat → Spot → List Char → Option (List Piece)
  | _, _, [] => some []
  | 0, _, _ => none
  | fuel + 1, p, s => do
    let (these, p, rest) ←
      (do
        let (t, rest) ← tag s
        let (piece, p) := placedTag p t s rest
        pure ([piece], p, rest)) <|> rawPieces? p s
    let blanks := rest.takeWhile isSpace
    let (words, next) := takeText "\x7b\x7b" (rest.length + 1) (rest.dropWhile isSpace)
    let text := if words = [] then (if blanks = [] then [] else [.gap blanks]) else [.text (blanks ++ words)]
    let others ← piecesFrom? fuel (p.after (rest.take (rest.length - next.length))) next
    some (these ++ text ++ others)

/-- **The pieces of a source**, if all its tags can be read. -/
def pieces? (s : List Char) : Option (List Piece) := do
  let (words, next) := takeText "\x7b\x7b" (s.length + 1) s
  let others ← piecesFrom? (s.length + 1) (({} : Spot).after (s.take (s.length - next.length))) next
  some (if words = [] then others else .text words :: others)

/-! ## The blanks around tags -/

/-- A text without the indentation and the one line end that it begins with. -/
def dropLineEnd (s : List Char) : List Char :=
  match s.dropWhile isIndent with
  | '\r' :: '\n' :: s => s
  | '\n' :: s => s
  | s => s

/-- A text without the indentation that it ends with. -/
def dropIndent (s : List Char) : List Char := (s.reverse.dropWhile isIndent).reverse

/-- Does a tag show nothing, so that it can have a line to itself? -/
def Tag.Kind.silent : Tag.Kind → Bool
  | .print _ => false
  | _ => true

/-- Does a tag that has a line to itself take away the indentation before it?  A part keeps it. -/
def Tag.Kind.takesIndent : Tag.Kind → Bool
  | .print _ | .part .. => false
  | _ => true

/-- A text without the blanks that the piece after it takes away. -/
def cutBefore (next : List Piece) (s : List Char) : List Char :=
  match next with
  | .tag _ alone t :: _ =>
    let s := if t.trimBefore then Text.trimEnd s else s
    if alone && t.kind.takesIndent then dropIndent s else s
  | _ => s

/-- **The pieces without the blanks that do not belong to the text.**  Whether the text after a tag
loses all the blanks that it begins with is decided by the last tag that is no comment; whether it
loses the rest of the line, by the last tag that shows nothing.  Blanks between two tags that are
lost altogether leave the rest of the line to be lost from the next text. -/
def cutBlanks (trim line : Bool) : List Piece → List Piece
  | [] => []
  | .text s :: rest =>
    let s := if trim then Text.trimStart s else if line then dropLineEnd s else s
    .text (cutBefore rest s) :: cutBlanks trim false rest
  | .gap s :: rest =>
    if trim then cutBlanks trim line rest
    else .text (cutBefore rest (if line then dropLineEnd s else s)) :: cutBlanks trim false rest
  | .tag mark alone t :: rest =>
    let trim := match t.kind with
      | .comment => trim
      | _ => t.trimAfter
    .tag mark alone t :: cutBlanks trim (if t.kind.silent then alone else line) rest

end ExamPress.Template
