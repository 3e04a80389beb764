import ExamPress.Files.Tree
import ExamPress.Number.Decimal

/-!
# Scratch folders

An exam is typeset in a folder of its own, made for it in a place where there is nothing, and
removed afterwards with all that is in it.

Two paths have to be accepted for that: the one of the folder when it is made, and the one of the
source when it is written.  The names of scratch folders are drawn, with six letters or digits at
the end.  Here they are numbered instead, without an end, so that one is free in every tree; what a
name counts for in the length of a path is the same for all of them.

## What is here

* `Scratch` — the folder, with its place and its path;
* `Scratch.firstPath`, `Scratch.sourcePath` — the paths that have to be accepted;
* `Scratch.create` — making one under a name that is free;
* `Scratch.writeSource` — putting the source into it;
* `Scratch.remove` — removing it.
-/

set_option autoImplicit false

namespace ExamPress.Press

open ExamPress.Files

/-- **A scratch folder.** -/
structure Scratch where
  /-- The folder that it is made in. -/
  root : Place
  /-- The path of that folder, from the top. -/
  rootPath : String
  name : String

namespace Scratch

def place (s : Scratch) : Place := s.root ++ [s.name]

/-- Its path from the top. -/
def path (s : Scratch) : String := Path.join s.rootPath s.name

/-- The path of something in the folder. -/
def pathOf (s : Scratch) (name : String) : String := Path.join s.path name

/-- The name of the source in the folder. -/
def sourceName : String := "exam.tex"

/-- The folder that scratch folders are made in when no other is given. -/
def commonRoot : String := "/tmp"

/-- The names of scratch folders, by number. -/
def folderName (number : Nat) : String :=
  let digits := Number.natText number
  "MaTeX" ++ String.ofList (List.replicate (6 - digits.length) '0' ++ digits)

/-- How many names are tried.  What is in the tree stands in the way of no more than one name each,
so one of them is free. -/
def attempts (t : FileTree) : Nat := t.entries.length + 1

/-- The first free name in a folder, from a number on. -/
def freeName? (t : FileTree) (root : Place) : (attempts : Nat) → (number : Nat) → Option String
  | 0, _ => none
  | attempts + 1, number =>
    let name := folderName number
    if t.isFree (root ++ [name]) then some name else freeName? t root attempts (number + 1)

theorem isFree_of_freeName? {t : FileTree} {root : Place} {attempts number : Nat} {name : String}
    (h : freeName? t root attempts number = some name) : t.isFree (root ++ [name]) := by
  induction attempts generalizing number with
  | zero => simp [freeName?] at h
  | succ attempts ih =>
    rw [freeName?] at h
    split at h
    · next hfree => exact Option.some.inj h ▸ hfree
    · exact ih h

/-- The path of the first scratch folder in a folder.  All have paths of its length: every name that
is drawn has eleven characters, and a number of more than six digits counts for no more. -/
def firstPath (rootPath : String) : String := Path.join rootPath (folderName 0)

/-- The path of the source in that folder. -/
def sourcePath (rootPath : String) : String := Path.join (firstPath rootPath) sourceName

/-- **A new scratch folder** in the folder at a path. -/
def create (t : FileTree) (root : String) : Except Fault (Scratch × FileTree) := do
  let rootPath := Path.join (Place.path t.workingFolder) root
  FileTree.checkPath (firstPath rootPath)
  let place ← t.resolve rootPath
  t.needFolder place
  match freeName? t place (attempts t) 0 with
  | none => .error .alreadyThere
  | some name =>
    let s : Scratch := { root := place, rootPath, name }
    .ok (s, t.put s.place .folder)

/-- **The tree with the source in the folder.** -/
def writeSource (s : Scratch) (t : FileTree) (source : String) : Except Fault FileTree := do
  FileTree.checkPath (sourcePath s.rootPath)
  let place := s.place ++ [sourceName]
  if t.at? place = some .folder then .error .isAFolder
  else .ok (t.put place (.file source.toUTF8))

/-- **The tree without the folder.** -/
def remove (s : Scratch) (t : FileTree) : FileTree := t.cut s.place

end Scratch

end ExamPress.Press
