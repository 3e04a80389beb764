import ExamPress.Files.Fault
import ExamPress.Files.Path

/-!
# The tree of files

Files and folders, each at its place, and a folder that paths start from.  Everything that touches
files is a function of a tree; what changes them gives the next tree.

## What is here

* `FileTree` — the tree; `FileTree.at?` says what is at a place, `FileTree.put` puts something
  there (`at?_put_self`, `at?_put_of_ne`), `FileTree.plant` with the folders on the way, and
  `FileTree.cut` removes all at and below a place;
* `FileTree.resolve` — the place that a path leads to; `FileTree.target` the place for something
  new;
* `FileTree.read`, `readText`, `write`, `append` — files;
* `FileTree.list`, `makeFolder`, `makeFolders` — folders.
-/

set_option autoImplicit false

namespace ExamPress.Files

/-- What can be at a place. -/
inductive Entry
  | file (content : ByteArray)
  | folder

instance : DecidableEq Entry
  | .file c, .file d =>
    if h : c.data = d.data then .isTrue (congrArg _ (ByteArray.ext h))
    else .isFalse fun e => h (congrArg ByteArray.data (Entry.file.inj e))
  | .folder, .folder => .isTrue rfl
  | .file _, .folder => .isFalse nofun
  | .folder, .file _ => .isFalse nofun

/-- **A tree of files.**  The top is a folder and has no entry of its own. -/
structure FileTree where
  entries : List (Place × Entry)
  /-- Where paths start that do not start at the top. -/
  workingFolder : Place := []

/-! ## Places -/

/-- The path of a place. -/
def Place.path (place : Place) : String := "/" ++ "/".intercalate place

/-- **The way from one place to another at or below it.** -/
def Place.way? : Place → Place → Option Place
  | [], other => some other
  | _ :: _, [] => none
  | name :: place, first :: other => if name = first then Place.way? place other else none

theorem Place.way?_append (place way : Place) : Place.way? place (place ++ way) = some way := by
  induction place with
  | nil => rfl
  | cons name place ih => simpa [Place.way?] using ih

theorem Place.way?_eq_some {place other way : Place} (h : Place.way? place other = some way) :
    other = place ++ way := by
  induction place generalizing other with
  | nil => simpa [Place.way?] using h
  | cons name place ih =>
    cases other with
    | nil => simp [Place.way?] at h
    | cons first other =>
      rw [Place.way?] at h
      split at h
      · next heq => rw [ih h, heq, List.cons_append]
      · simp at h

/-! ## Places in a list of entries -/

/-- An entry at its place among others; it takes the place of one that is there. -/
def putEntry (place : Place) (entry : Entry) :
    List (Place × Entry) → List (Place × Entry)
  | [] => [(place, entry)]
  | e :: es => if e.1 = place then (place, entry) :: es else e :: putEntry place entry es

theorem lookup_putEntry_self (place : Place) (entry : Entry) (es : List (Place × Entry)) :
    (putEntry place entry es).lookup place = some entry := by
  induction es with
  | nil => simp [putEntry]
  | cons e es ih =>
    rw [putEntry]
    split
    · simp
    · next h =>
      have hne : (place == e.1) = false := by simpa using fun heq => h heq.symm
      rw [List.lookup_cons, hne]
      exact ih

theorem lookup_putEntry_of_ne {place other : Place} (h : other ≠ place) (entry : Entry)
    (es : List (Place × Entry)) :
    (putEntry place entry es).lookup other = es.lookup other := by
  have hne : (other == place) = false := by simpa using h
  induction es with
  | nil => simp [putEntry, List.lookup_cons, hne]
  | cons e es ih =>
    rw [putEntry]
    split
    · next heq => rw [List.lookup_cons, List.lookup_cons, hne, heq, hne]
    · rw [List.lookup_cons, List.lookup_cons, ih]

namespace FileTree

/-- **What is at a place.** -/
def at? (t : FileTree) : Place → Option Entry
  | [] => some .folder
  | place => t.entries.lookup place

/-- **The tree with something at a place.** -/
def put (t : FileTree) (place : Place) (entry : Entry) : FileTree :=
  { t with entries := putEntry place entry t.entries }

theorem at?_put_self (t : FileTree) {place : Place} (h : place ≠ []) (entry : Entry) :
    (t.put place entry).at? place = some entry := by
  cases place with
  | nil => exact absurd rfl h
  | cons => exact lookup_putEntry_self _ _ _

theorem at?_put_of_ne (t : FileTree) {place other : Place} (h : other ≠ place)
    (entry : Entry) : (t.put place entry).at? other = t.at? other := by
  cases other with
  | nil => rfl
  | cons => exact lookup_putEntry_of_ne h _ _

/-- The tree with something at a place, and with folders on the way to it where nothing is. -/
def plant (t : FileTree) (place : Place) (entry : Entry) : FileTree :=
  let ways := (List.range place.length).map place.take
  let t := ways.foldl (fun t way => if (t.at? way).isNone then t.put way .folder else t) t
  t.put place entry

/-- What is below a place, each with the way that leads there. -/
def below (t : FileTree) (place : Place) : List (Place × Entry) :=
  t.entries.filterMap fun e =>
    match Place.way? place e.1 with
    | none | some [] => none
    | some way => some (way, e.2)

/-- The tree without what is at and below a place. -/
def cut (t : FileTree) (place : Place) : FileTree :=
  { t with entries := t.entries.filter fun e => (Place.way? place e.1).isNone }

/-- The tree with other contents below a place. -/
def graft (t : FileTree) (place : Place) (contents : List (Place × Entry)) : FileTree :=
  { t with entries := (t.cut place).entries ++ (place, .folder) ::
      contents.map fun e => (place ++ e.1, e.2) }

/-- Is nothing at or below a place? -/
def isFree (t : FileTree) (place : Place) : Bool :=
  t.entries.all fun e => (Place.way? place e.1).isNone

/-! ## Where a path leads -/

/-- The longest name that there can be, in bytes. -/
def longestName : Nat := 255

/-- The longest path that is accepted, in bytes. -/
def longestPath : Nat := 4095

/-- Does a text fit to be a path at all? -/
def checkPath (path : String) : Except Fault Unit :=
  if path.toList.contains '\x00' then .error .zeroInPath
  else if path = "" then .error .notFound
  else if longestPath < path.utf8ByteSize then .error .tooLong
  else .ok ()

/-- The place where a path starts. -/
def start (t : FileTree) (path : String) : Place :=
  if Path.isAbsolute path then [] else t.workingFolder

/-- The place must be a folder. -/
def needFolder (t : FileTree) (place : Place) : Except Fault Unit :=
  match t.at? place with
  | some .folder => .ok ()
  | some (.file _) => .error .notAFolder
  | none => .error .notFound

/-- From a place to the next, by one piece of a path. -/
def step (t : FileTree) (place : Place) (name : String) : Except Fault Place := do
  t.needFolder place
  if name = "" ∨ name = "." then .ok place
  else if name = ".." then .ok place.dropLast
  else if longestName < name.utf8ByteSize then .error .tooLong
  else if (t.at? (place ++ [name])).isSome then .ok (place ++ [name])
  else .error .notFound

/-- **The place that a path leads to.**  Every piece but the last has to lead to a folder. -/
def resolve (t : FileTree) (path : String) : Except Fault Place := do
  checkPath path
  (Path.pieces path).foldlM t.step (t.start path)

/-- **The place that a path gives to something new**, whose folder has to be there.  A path that
ends in a dot names what is there already. -/
def target (t : FileTree) (path : String) (onDot : Fault) : Except Fault Place := do
  checkPath path
  match (Path.names path).getLast? with
  | none => .error onDot
  | some name =>
    let folder ← (Path.names path).dropLast.foldlM t.step (t.start path)
    t.needFolder folder
    if name = "." ∨ name = ".." then .error onDot
    else if longestName < name.utf8ByteSize then .error .tooLong
    else .ok (folder ++ [name])

/-- What a path leads to. -/
def entryAt? (t : FileTree) (path : String) : Option Entry :=
  (t.resolve path).toOption.bind t.at?

/-- Is there something at a path? -/
def pathExists (t : FileTree) (path : String) : Bool := (t.entryAt? path).isSome

/-- Is there a folder at a path? -/
def isFolder (t : FileTree) (path : String) : Bool := t.entryAt? path = some .folder

/-- Is there a file at a path? -/
def isFile (t : FileTree) (path : String) : Bool :=
  match t.entryAt? path with
  | some (.file _) => true
  | _ => false

/-! ## Files -/

/-- The content of the file at a place. -/
def contentAt (t : FileTree) (place : Place) : Except Fault ByteArray :=
  match t.at? place with
  | some (.file content) => .ok content
  | some .folder => .error .isAFolder
  | none => .error .notFound

/-- **The content of a file.** -/
def read (t : FileTree) (path : String) : Except Fault ByteArray := do
  t.contentAt (← t.resolve path)

/-- **The content of a file of text.** -/
def readText (t : FileTree) (path : String) : Except Fault String := do
  match String.fromUTF8? (← t.read path) with
  | some text => .ok text
  | none => .error .notText

/-- The place of a file that is to be written: it may be there already, but not as a folder. -/
def fileTarget (t : FileTree) (path : String) : Except Fault Place := do
  let place ← t.target path .isAFolder
  if Path.endsInSeparator path then .error .isAFolder
  else if t.at? place = some .folder then .error .isAFolder
  else .ok place

/-- **The tree with a file written**, in place of what it held. -/
def write (t : FileTree) (path : String) (content : ByteArray) : Except Fault FileTree := do
  .ok (t.put (← t.fileTarget path) (.file content))

/-- **The tree with more at the end of a file.** -/
def append (t : FileTree) (path : String) (content : ByteArray) : Except Fault FileTree := do
  let place ← t.fileTarget path
  let old := (t.contentAt place).toOption.getD ByteArray.empty
  .ok (t.put place (.file (old ++ content)))

/-! ## Folders -/

/-- The names in the folder at a place. -/
def namesAt (t : FileTree) (place : Place) : List String :=
  (t.below place).filterMap fun e => match e.1 with
    | [name] => some name
    | _ => none

/-- **The names in a folder**, in no particular order. -/
def list (t : FileTree) (path : String) : Except Fault (List String) := do
  let place ← t.resolve path
  t.needFolder place
  .ok (t.namesAt place)

/-- The tree with one more folder. -/
def makeFolder (t : FileTree) (path : String) : Except Fault FileTree := do
  let place ← t.target path .alreadyThere
  if (t.at? place).isSome then .error .alreadyThere else .ok (t.put place .folder)

/-- Making each of the given folders that is not there, the longest path first: a folder whose own
folder is missing waits for the shorter ones.  What was made before a fault stays. -/
def makeMissing (t : FileTree) : List String → Except Fault Unit × FileTree
  | [] => (.ok (), t)
  | path :: shorter =>
    match t.makeFolder path with
    | .ok t' => (.ok (), t')
    | .error .notFound =>
      match t.makeMissing shorter with
      | (.error fault, t') => (.error fault, t')
      | (.ok (), t') =>
        match t'.makeFolder path with
        | .ok t'' => (.ok (), t'')
        | .error fault =>
          (if fault = .alreadyThere ∧ t'.isFolder path then .ok () else .error fault, t')
    | .error fault =>
      (if fault = .alreadyThere ∧ t.isFolder path then .ok () else .error fault, t)

/-- **Making a folder and all folders on the way to it.** -/
def makeFolders (t : FileTree) (path : String) : Except Fault Unit × FileTree :=
  t.makeMissing (Path.beginnings path).reverse

end FileTree

end ExamPress.Files
