import ExamPress.Batch.Report

/-!
# The command

The command runs a batch with the settings of the environment.  Its arguments are the time that the log
begins with and the files that the batch may read; an argument that ends in a separator names a
folder.  What the batch writes is written to the same paths.

Nothing here can start another program, so the batch sees a typesetting program that cannot be
started, and each exam that has questions is noted as one that could not be made.
-/

set_option autoImplicit false

namespace ExamPress.Command

open ExamPress.Files

/-- The place of a path that has no dots. -/
def placeOf (workingFolder : Place) (path : String) : Place :=
  let names := (Path.pieces path).filter fun name => name ≠ "" && name ≠ "."
  if Path.isAbsolute path then names else workingFolder ++ names

/-- The settings that are in the environment. -/
def readEnvironment : IO (List (String × String)) :=
  Settings.names.filterMapM fun name => do return (← IO.getEnv name).map fun value => (name, value)

/-- The tree of the named files. -/
def readTree (workingFolder : Place) (paths : List String) : IO FileTree := do
  let mut t : FileTree := { entries := [], workingFolder }
  t := t.plant workingFolder .folder
  for path in paths do
    let place := placeOf workingFolder path
    if Path.endsInSeparator path then t := t.plant place .folder
    else t := t.plant place (.file (← IO.FS.readBinFile path))
  return t

/-- Writing what has changed from one tree to the next. -/
def writeChanges (before after : FileTree) : IO Unit :=
  after.entries.forM fun (place, entry) => do
    if before.at? place ≠ some entry then
      match entry with
      | .folder => IO.FS.createDirAll (Place.path place)
      | .file content => IO.FS.writeBinFile (Place.path place) content

/-- A program that cannot be started. -/
def missingProgram : Press.Program := fun r => { ending := .notStarted, contents := r.contents }

/-- **The command**, by its arguments. -/
def run (args : List String) : IO UInt32 := do
  let environment ← readEnvironment
  let workingFolder := placeOf [] ((← IO.getEnv "PWD").getD "/")
  let before ← readTree workingFolder args.tail
  let (report, after) :=
    Batch.command (environment.lookup ·) missingProgram (args.head?.getD "") before
  writeChanges before after
  IO.eprint report.stderr
  return UInt32.ofNat report.exitCode

end ExamPress.Command

/-- The entry point. -/
def main (args : List String) : IO UInt32 := ExamPress.Command.run args
