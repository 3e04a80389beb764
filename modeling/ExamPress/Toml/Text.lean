import ExamPress.Json.Reader

/-!
# TOML strings, keys and gaps

The parts of a TOML text that are read character by character.

## What is here

* `Toml.skipGap` — blanks, line ends and comments;
* `Toml.readLineEnd` — the end of a line, after an optional comment;
* `Toml.readBasic`, `Toml.readLiteral` and their forms over several lines;
* `Toml.readKey` — keys, bare or quoted, with dots between them.
-/

set_option autoImplicit false

namespace ExamPress.Toml

/-- Blanks within a line. -/
def isSpace (c : Char) : Bool := c = ' ' || c = '\t'

/-- The text from its next character that is not a blank. -/
def skipSpace (s : List Char) : List Char := s.dropWhile isSpace

/-- The characters that may stand in comments and strings: no controls but the tab. -/
def isTextChar (c : Char) : Bool := c = '\t' || (0x20 ≤ c.toNat && c.toNat ≠ 0x7F)

/-- Does a line end here?  A carriage return counts only right before a line feed. -/
def startsWithLineFeed : List Char → Bool
  | '\n' :: _ => true
  | '\r' :: '\n' :: _ => true
  | _ => false

/-- A text after its leading line end, if it begins with one. -/
def dropLineFeed : List Char → List Char
  | '\n' :: s => s
  | '\r' :: '\n' :: s => s
  | s => s

/-- The text after blanks, line ends and comments, where the flag says whether it starts inside a
comment; nothing if a character is not allowed. -/
def skipGap : Bool → List Char → Option (List Char)
  | _, [] => some []
  | inComment, c :: s =>
    if c = '\n' then skipGap false s
    else if c = '\r' then if startsWithLineFeed s then skipGap false s else none
    else if inComment then if isTextChar c then skipGap true s else none
    else if isSpace c then skipGap false s
    else if c = '#' then skipGap true s
    else some (c :: s)

/-- The text after a comment, up to the end of its line. -/
def skipComment : List Char → Option (List Char)
  | '#' :: s =>
    let rest := s.dropWhile isTextChar
    if rest = [] ∨ startsWithLineFeed rest then some rest else none
  | s => some s

/-- The text after the end of a line, which may have a comment on it. -/
def readLineEnd (s : List Char) : Option (List Char) := do
  let rest ← skipComment (skipSpace s)
  if rest = [] then some []
  else if startsWithLineFeed rest then some (dropLineFeed rest)
  else none

/-! ## Strings -/

/-- The character with a number, if there is one. -/
def charOf? (n : Nat) : Option Char := if n.isValidChar then some (Char.ofNat n) else none

/-- The value of hexadecimal digits. -/
def hexValue? (digits : List Char) : Option Nat :=
  digits.foldlM (fun n c => (Json.hexValue? c).map (16 * n + ·)) 0

/-- A character given by so many hexadecimal digits. -/
def readHex (count : Nat) (s : List Char) : Option (Char × List Char) := do
  let digits := s.take count
  if digits.length < count then none
  else some (← charOf? (← hexValue? digits), s.drop count)

/-- An escaped character, from after the backslash. -/
def readEscape : List Char → Option (Char × List Char)
  | 'b' :: s => some ('\x08', s)
  | 't' :: s => some ('\t', s)
  | 'n' :: s => some ('\n', s)
  | 'f' :: s => some ('\x0c', s)
  | 'r' :: s => some ('\r', s)
  | 'e' :: s => some ('\x1b', s)
  | '"' :: s => some ('"', s)
  | '\\' :: s => some ('\\', s)
  | 'x' :: s => readHex 2 s
  | 'u' :: s => readHex 4 s
  | 'U' :: s => readHex 8 s
  | _ => none

/-- A string between quotation marks, from after the first.  The fuel exceeds the length of the
text. -/
def readBasicChars : Nat → List Char → Option (List Char × List Char)
  | 0, _ => none
  | _, [] => none
  | fuel + 1, c :: s =>
    if c = '"' then some ([], s)
    else if c = '\\' then do
      let (d, s) ← readEscape s
      let (cs, s) ← readBasicChars fuel s
      some (d :: cs, s)
    else if isTextChar c then do
      let (cs, s) ← readBasicChars fuel s
      some (c :: cs, s)
    else none

/-- A string between quotation marks, from after the first. -/
def readBasic (s : List Char) : Option (List Char × List Char) := readBasicChars (s.length + 1) s

/-- A string between apostrophes, from after the first. -/
def readLiteral (s : List Char) : Option (List Char × List Char) :=
  let body := s.takeWhile fun c => c ≠ '\'' && isTextChar c
  match s.drop body.length with
  | '\'' :: s => some (body, s)
  | _ => none

/-- Three or more quotes end a string over several lines; up to two of them belong to the string.
Returns those and the text after the end. -/
def closingQuotes (quote : Char) (s : List Char) : Option (List Char × List Char) :=
  let count := min (s.takeWhile (· = quote)).length 5
  if count < 3 then none else some (List.replicate (count - 3) quote, s.drop count)

/-- Is the rest of the line blank, so that a backslash joins it with what follows? -/
def joinsLines (s : List Char) : Bool := startsWithLineFeed (skipSpace s)

/-- The text after blanks and line ends. -/
def skipLines : List Char → List Char
  | [] => []
  | c :: s =>
    if isSpace c || c = '\n' || (c = '\r' && startsWithLineFeed s) then skipLines s else c :: s

/-- A string over several lines between triple quotation marks, from after the first line end. -/
def readLongBasicChars : Nat → List Char → Option (List Char × List Char)
  | 0, _ => none
  | _, [] => none
  | fuel + 1, c :: s =>
    match closingQuotes '"' (c :: s) with
    | some result => some result
    | none =>
      if c = '\\' then
        if joinsLines s then readLongBasicChars fuel (skipLines s)
        else do
          let (d, s) ← readEscape s
          let (cs, s) ← readLongBasicChars fuel s
          some (d :: cs, s)
      else if c = '\n' || (c = '\r' && startsWithLineFeed s) || isTextChar c then do
        let (cs, s) ← readLongBasicChars fuel s
        some (c :: cs, s)
      else none

/-- A string over several lines between triple apostrophes, from after the first line end. -/
def readLongLiteralChars : List Char → Option (List Char × List Char)
  | [] => none
  | c :: s =>
    match closingQuotes '\'' (c :: s) with
    | some result => some result
    | none =>
      if c = '\n' || (c = '\r' && startsWithLineFeed s) || isTextChar c then do
        let (cs, s) ← readLongLiteralChars s
        some (c :: cs, s)
      else none

/-- A string over several lines, from after its opening quotes; a line end right there is left
out. -/
def readLong (basic : Bool) (s : List Char) : Option (List Char × List Char) :=
  let s := dropLineFeed s
  if basic then readLongBasicChars (s.length + 1) s else readLongLiteralChars s

/-! ## Keys -/

/-- The characters of bare keys. -/
def isKeyChar (c : Char) : Bool := c.isAlphanum || c = '_' || c = '-'

/-- One key: a string on one line, or bare. -/
def readSimpleKey (s : List Char) : Option (String × List Char) :=
  match s with
  | '"' :: s => (readBasic s).map fun r => (String.ofList r.1, r.2)
  | '\'' :: s => (readLiteral s).map fun r => (String.ofList r.1, r.2)
  | s =>
    let key := s.takeWhile isKeyChar
    if key = [] then none else some (String.ofList key, s.drop key.length)

/-- Keys with dots between them: all but the last, and the last. -/
def readKeys : Nat → List Char → Option (List String × String × List Char)
  | 0, _ => none
  | fuel + 1, s => do
    let (key, s) ← readSimpleKey s
    match skipSpace s with
    | '.' :: s => do
      let (path, last, s) ← readKeys fuel (skipSpace s)
      some (key :: path, last, s)
    | s => some ([], key, s)

/-- A key, dotted or not, and the text after it and the blanks that follow. -/
def readKey (s : List Char) : Option (List String × String × List Char) :=
  readKeys (s.length + 1) s

end ExamPress.Toml
