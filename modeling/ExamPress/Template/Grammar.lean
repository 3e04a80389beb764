import ExamPress.Json.Reader
import ExamPress.Template.Syntax

/-!
# What is written inside a tag

A reader takes the text that is left and returns what it read and the text after it, or nothing.
Of several alternatives the first that fits is taken and not reconsidered.  Blanks between the words
of a tag mean nothing, so every word is read together with the blanks before it.

## What is here

* `Template.Reader` — the readers, with `skip`, `token`, `optional` and `many`;
* `Template.identifier`, `Template.reference` — names and references;
* `Template.literal` — values written out, as JSON or as text between apostrophes;
* `Template.callLine`, `Template.head`, `Template.partLine` — a whole tag without its braces.
-/

set_option autoImplicit false

namespace ExamPress.Template

/-- A reader takes the text that is left and returns what it read and the text after it. -/
abbrev Reader := StateT (List Char) Option

/-! ## Words -/

/-- The blanks between the words of a tag. -/
def isSpace (c : Char) : Bool := c = ' ' || c = '\t' || c = '\n' || c = '\r'

/-- Passes over blanks. -/
def skip : Reader Unit := fun s => some ((), s.dropWhile isSpace)

/-- The given characters. -/
def word (w : String) : Reader Unit := fun s =>
  if w.toList.isPrefixOf s then some ((), s.drop w.length) else none

/-- The given characters, after blanks. -/
def token (w : String) : Reader Unit := do
  skip
  word w

/-- Is something there?  If so it is read. -/
def optional (p : Reader Unit) : Reader Bool := (do p; pure true) <|> pure false

/-- As many as there are.  Each of them takes at least one character, so the length of the text
bounds their number. -/
def many {α : Type} (p : Reader α) : Nat → Reader (List α)
  | 0 => pure []
  | fuel + 1 => fun s =>
    match p s with
    | none => some ([], s)
    | some (x, s) => (many p fuel s).map fun r => (x :: r.1, r.2)

/-- The length of the text that is left. -/
def remaining : Reader Nat := fun s => some (s.length, s)

/-- The text that a reader takes. -/
def spelling {α : Type} (p : Reader α) : Reader (List Char × α) := fun s => do
  let (x, rest) ← p s
  some ((s.take (s.length - rest.length), x), rest)

/-! ## Names -/

/-- The characters of names: letters and digits, the hyphen, the underscore and the dollar sign, and
everything beyond ASCII. -/
def isSymbol (c : Char) : Bool :=
  c.isAlphanum || c = '-' || c = '_' || c = '$' || 0x80 ≤ c.toNat

/-- The separators inside a reference. -/
def isSeparator (c : Char) : Bool := c = '/' || c = '.'

/-- One or more characters of a class. -/
def takeSome (p : Char → Bool) : Reader String := fun s =>
  if s.takeWhile p = [] then none
  else some (String.ofList (s.takeWhile p), s.dropWhile p)

/-- A name. -/
def identifier : Reader String := takeSome isSymbol

/-- Nothing that would make a name longer. -/
def boundary : Reader Unit := fun s =>
  match s with
  | c :: _ => if isSymbol c then none else some ((), s)
  | [] => some ((), s)

/-! ## References -/

/-- One character of a class. -/
def oneOf (p : Char → Bool) : Reader Unit := fun s =>
  match s with
  | c :: s => if p c then some ((), s) else none
  | [] => none

/-- Any text between brackets. -/
def bracketed : Reader String := do
  word "["
  let name ← takeSome (· ≠ ']') <|> pure ""
  word "]"
  pure name

/-- One step of a way: a name, or any text between brackets. -/
def wayStep : Reader String := identifier <|> bracketed

/-- The target of a reference.  The word `this` is no step. -/
def target : Reader Target := do
  let _ ← optional ((do word "this"; oneOf isSeparator) <|> word "./")
  let root ← optional (do word "@root"; oneOf isSeparator)
  let inScope ← optional (word "@")
  let n ← remaining
  let ups ← many (do word ".."; oneOf isSeparator) n
  let first ← wayStep
  let more ← many (do oneOf isSeparator; wayStep) n
  let names := (first :: more).filter (· ≠ "this")
  pure <|
    if root then .absolute names
    else if inScope then
      match names with
      | name :: _ => .scopeVariable ups.length name
      | [] => .relative 0 []
    else .relative ups.length names

/-- **A reference**, in which no blanks are allowed. -/
def reference : Reader Reference := do
  let (raw, target) ← spelling target
  pure { raw := String.ofList raw, target }

/-! ## Literals -/

/-- The rest of a text between two quotation marks, with the escapes of JSON. -/
def quotedRest (quote : Char) : List Char → Option (List Char)
  | [] => none
  | '\\' :: 'u' :: a :: b :: c :: d :: s =>
    if ([a, b, c, d].all fun x => (Json.hexValue? x).isSome) then quotedRest quote s else none
  | '\\' :: c :: s =>
    if c = quote || "\\/bfnrt".toList.contains c then quotedRest quote s else none
  | '\\' :: [] => none
  | c :: s => if c = quote then some s else quotedRest quote s

/-- A text between two quotation marks. -/
def quoted (quote : Char) : Reader Unit := fun s =>
  match s with
  | c :: s => if c = quote then (quotedRest quote s).map fun s => ((), s) else none
  | [] => none

/-- One or more digits. -/
def digits : Reader Unit := do
  let _ ← takeSome Char.isDigit
  pure ()

/-- A number.  The exponent follows a capital letter and has no plus sign. -/
def numberText : Reader Unit := do
  let _ ← optional (word "-")
  digits
  let _ ← optional (word ".")
  let _ ← optional digits
  let _ ← optional (do word "E"; let _ ← optional (word "-"); digits)
  boundary

/-- A text between quotation marks or apostrophes. -/
def stringText : Reader Unit := quoted '"' <|> quoted '\''

/-- A list, given what its items look like. -/
def arrayText (item : Reader Unit) : Reader Unit := do
  word "["
  let n ← remaining
  let _ ← optional (do skip; item)
  let _ ← many (do token ","; skip; item) n
  token "]"

/-- A table, given what its values look like. -/
def objectText (item : Reader Unit) : Reader Unit := do
  word "\x7b"
  let n ← remaining
  let entry : Reader Unit := do skip; stringText; token ":"; skip; item
  let _ ← optional entry
  let _ ← many (do token ","; entry) n
  token "\x7d"

/-- One of the three words. -/
def constantText : Reader Unit :=
  (do word "null"; boundary) <|> (do (word "true" <|> word "false"); boundary)

/-- What a literal looks like, nested at most so deep. -/
def literalText : Nat → Reader Unit
  | 0 => failure
  | depth + 1 =>
    stringText <|> arrayText (literalText depth) <|> objectText (literalText depth) <|>
      numberText <|> constantText

/-- The same text between quotation marks instead of apostrophes. -/
def requote : List Char → List Char
  | [] => []
  | '\\' :: '\'' :: s => '\'' :: requote s
  | '"' :: s => '\\' :: '"' :: requote s
  | c :: s => c :: requote s

mutual

/-- A value in which the keys of each object are in order, and the last of several entries of one
key has replaced the others. -/
def ordered : Json.Value → Json.Value
  | .array items => .array (orderedItems items)
  | .object entries => .object (orderedEntries entries)
  | v => v

/-- A list of such values. -/
def orderedItems : List Json.Value → List Json.Value
  | [] => []
  | v :: items => ordered v :: orderedItems items

/-- The entries of an object in the order of their keys. -/
def orderedEntries : List (String × Json.Value) → List (String × Json.Value)
  | [] => []
  | (key, v) :: entries =>
    let others := orderedEntries entries
    if others.any (·.1 = key) then others
    else others.takeWhile (·.1 < key) ++ (key, ordered v) :: others.dropWhile (·.1 < key)

end

/-- The value of the text of a literal. -/
def literalValue (s : List Char) : Option Json.Value :=
  let s :=
    match s with
    | '\'' :: inner => '"' :: requote inner.dropLast ++ ['"']
    | s => s
  (Json.parse s).toOption.map ordered

/-- A literal. -/
def literal : Reader Argument := do
  let n ← remaining
  let (text, _) ← spelling (literalText (n + 1))
  pure (.literal (literalValue text))

/-! ## Arguments -/

/-- The words `as` and `else`, where nothing follows that could be a name, end the arguments. -/
def notKeyword : Reader Unit := fun s =>
  let keyword : Reader Unit := do
    word "as" <|> word "else"
    skip
    boundary
  match keyword s with
  | some _ => none
  | none => some ((), s)

/-- One argument, given how a call between parentheses is read. -/
def argument (nested : Reader Call) : Reader Argument := do
  skip
  notKeyword
  literal <|> (do pure (.reference (← reference))) <|> (do pure (← nested).toArgument)

/-- An option, or an argument without a name. -/
def entry (nested : Reader Call) : Reader (Option String × Argument) :=
  (do
    skip
    let name ← identifier
    token "="
    pure (some name, ← argument nested)) <|>
  (do pure (none, ← argument nested))

/-- All arguments and options. -/
def entries (nested : Reader Call) : Reader (List (Option String × Argument)) := do
  many (entry nested) (← remaining)

/-- A name with its arguments.  The last of several options of one name counts. -/
def Call.ofEntries (name : String) (entries : List (Option String × Argument)) : Call :=
  { name
    args := entries.filterMap fun e => if e.1.isNone then some e.2 else none
    options := (entries.filterMap fun e => e.1.map fun name => (name, e.2)).foldl
      (fun options e => options.filter (·.1 ≠ e.1) ++ [e]) [] }

/-- A name with at least one argument. -/
def callWithArguments (nested : Reader Call) : Reader Call := do
  let name ← identifier
  let first ← entry nested
  let more ← entries nested
  pure (.ofEntries name (first :: more))

/-- A call between parentheses, nested at most so deep. -/
def nestedCall : Nat → Reader Call
  | 0 => failure
  | depth + 1 => do
    word "("
    skip
    let call ← callWithArguments (nestedCall depth) <|> do pure { name := (← reference).raw }
    token ")"
    pure call

/-- A call between parentheses. -/
def parenthesised : Reader Call := do nestedCall (← remaining)

/-! ## Tags without their braces -/

/-- What stands for a value: a reference, or a call between parentheses. -/
def valueHead : Reader Head := do
  skip
  (do pure (.computed (← parenthesised))) <|> (do pure (.reference (← reference)))

/-- **What a tag shows.** -/
def head : Reader Head := do
  skip
  (do pure (.call (← callWithArguments parenthesised))) <|> valueHead

/-- The names that a block gives, one or two. -/
def blockNames : Reader (List String) := do
  token "as"
  token "|"
  skip
  let first ← identifier
  let second ← (do skip; pure [← identifier]) <|> pure []
  token "|"
  pure (first :: second)

/-- **A call with any number of arguments**, and the names that it gives. -/
def callLine : Reader (Call × List String) := do
  skip
  let name ← identifier
  let call := Call.ofEntries name (← entries parenthesised)
  let names ← blockNames <|> pure []
  pure (call, names)

/-- The name of a part: like a name, with separators and at signs in it, or any text between
apostrophes. -/
def partIdentifier : Reader String :=
  takeSome (fun c => isSymbol c || isSeparator c || c = '@') <|> do
    let (raw, _) ← spelling do
      word "'"
      let n ← remaining
      let piece : Reader Unit := word "\\'" <|> oneOf (· ≠ '\'')
      piece
      let _ ← many piece n
      word "'"
    pure (String.ofList raw)

/-- **The name of a part with its arguments.** -/
def partLine : Reader (PartName × Call) := do
  skip
  let name ← (do pure (PartName.fixed (← partIdentifier))) <|> do
    match ← valueHead with
    | .reference r => pure (PartName.fixed r.raw)
    | .computed c => pure (PartName.computed c)
    | .call c => pure (PartName.computed c)
  pure (name, .ofEntries "" (← entries parenthesised))

end ExamPress.Template
