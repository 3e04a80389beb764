import ExamPress.Files.Tree

/-!
# Folders of TOML files

The files of a folder that are named as TOML, in the order of their names.  The order in which the
folder lists them plays no part.

## What is here

* `Toml.paths` — the paths of the files;
* `Toml.load` — one file, read by a given reader; `Toml.LoadFailure` says why it is not there.
-/

set_option autoImplicit false

namespace ExamPress.Toml

open ExamPress.Files

/-- The names of TOML files among names, in order. -/
def tomlNames (names : List String) : List String :=
  (names.filter (Path.hasExtension "toml")).mergeSort fun a b => a ≤ b

/-- **The paths of the TOML files in a folder**, in the order of their names. -/
def paths (t : FileTree) (folder : String) : Except Failure (List String) :=
  if t.pathExists folder then
    match t.list folder with
    | .ok names => .ok ((tomlNames names).map (Path.join folder))
    | .error fault => .error (.refused .listFolder folder fault)
  else .error (.missingFolder folder)

/-- Why a file gives nothing. -/
inductive LoadFailure
  /-- Its text cannot be read. -/
  | unreadable (failure : Failure)
  /-- Its text is not what is wanted. -/
  | malformed
  deriving DecidableEq

/-- **What a reader makes of a file.** -/
def load {α : Type} (reader : String → Option α) (t : FileTree) (path : String) :
    Except LoadFailure α :=
  match t.readText path with
  | .error fault => .error (.unreadable (.refused .readToml path fault))
  | .ok text =>
    match reader text with
    | some value => .ok value
    | none => .error .malformed

end ExamPress.Toml
