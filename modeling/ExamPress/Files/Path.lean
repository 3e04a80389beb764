import ExamPress.Text.Lines

/-!
# Paths

A path is a text: names with `/` between them.  Nothing here looks at files; in particular `..` is
kept as it is, because where it leads depends on what is there.

## What is here

* `Path.isAbsolute`, `Path.join` — putting a path after a folder;
* `Path.pieces` — what stands between the `/`s, and `Path.names` the same up to the last name;
* `Path.beginnings`, `Path.parent?` — the folders that a path goes through;
* `Path.hasExtension` — the extension of a name.
-/

set_option autoImplicit false

namespace ExamPress.Files

/-- A place in the tree of files: the names that lead to it from the top. -/
abbrev Place := List String

namespace Path

/-- Does a path start at the top? -/
def isAbsolute (path : String) : Bool := path.toList.head? = some '/'

/-- Does a path end in a separator? -/
def endsInSeparator (path : String) : Bool := path.toList.getLast? = some '/'

/-- **A path in a folder.**  A path that starts at the top stays as it is. -/
def join (folder path : String) : String :=
  if isAbsolute path then path
  else if folder = "" || endsInSeparator folder then folder ++ path
  else folder ++ "/" ++ path

/-- What stands between the separators of a path. -/
def pieces (path : String) : List String := (Text.pieces '/' path.toList).map String.ofList

/-- The pieces of a path, without the empty ones that it ends with. -/
def names (path : String) : List String :=
  ((pieces path).reverse.dropWhile (· = "")).reverse

/-- Does a piece of a path lead from one place to another?  An empty piece does not, and neither
does a dot unless it is all there is so far. -/
def isStep (before piece : String) : Bool := piece ≠ "" && (piece ≠ "." || before = "")

/-- The beginnings of a path that end in a step, the shortest first, when some of it went before. -/
def beginningsAfter (before : String) : List String → List String
  | [] => []
  | piece :: rest =>
    let here := before ++ piece
    let longer := beginningsAfter (here ++ "/") rest
    if isStep before piece then here :: longer else longer

/-- **The beginnings of a path that end in a step**, the shortest first. -/
def beginnings (path : String) : List String := beginningsAfter "" (pieces path)

/-- **The folder that a path lies in**, by its text alone.  The top has none. -/
def parent? (path : String) : Option String :=
  match (beginnings path).reverse with
  | [] => none
  | [_] => some (if isAbsolute path then "/" else "")
  | _ :: parent :: _ => some parent

/-- Does a name end in a dot and the given extension, after something else? -/
def hasExtension (extension name : String) : Bool :=
  let ending := '.' :: extension.toList
  ending.isSuffixOf name.toList && ending.length < name.toList.length

end Path

end ExamPress.Files
