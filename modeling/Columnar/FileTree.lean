import Columnar.FileStore
import Columnar.Text.Blank

/-!
# Directories and files as a value

A file tree is a store of files on which every operation is a pure function. A path is split at slashes.
Each name but the last must lead into a directory; an empty name and `.` stay where they are, `..` goes
up. A path starts in the working directory or, with a slash, in the outer directory, which is above the
working directory and above itself.

A place in the tree is a directory together with the way to it from the outer one, so going down a path
takes time proportional to its length, and so does putting an entry at its end.

## Termination

Walking recurses on the names of a path, and listing files on the tree.

## Main statements

* `Directory.child?_put`: after an entry is put under a name it stands there, and under every other name
  stands what stood there before.
-/

namespace Columnar

/-- What stands under a name in a directory. -/
inductive Entry where
  | file (contents : ByteArray)
  | directory (entries : List (String × Entry))

/-- The entries of a directory, each under its name. -/
abbrev Directory := List (String × Entry)

namespace Directory

/-- What stands under a name. -/
def child? (d : Directory) (name : String) : Option Entry :=
  (d.find? (·.1 = name)).map Prod.snd

/-- Puts an entry under a name, in the place of one that is there. -/
def put (name : String) (e : Entry) : Directory → Directory
  | [] => [(name, e)]
  | (n, old) :: rest => if n = name then (name, e) :: rest else (n, old) :: put name e rest

/-- **An entry stands where it is put**, and all others stand where they stood. -/
theorem child?_put (name : String) (e : Entry) (d : Directory) (other : String) :
    child? (put name e d) other = if name = other then some e else child? d other := by
  have found : (put name e d).find? (·.1 = other) =
      if name = other then some (name, e) else d.find? (·.1 = other) := by
    induction d with
    | nil => by_cases h : name = other <;> simp [put, h]
    | cons entry rest ih =>
      obtain ⟨n, old⟩ := entry
      rw [put]
      split
      · rename_i same
        by_cases h : name = other <;> simp [h, same]
      · rename_i differs
        rw [List.find?_cons, ih, List.find?_cons]
        by_cases h : name = other
        · subst h
          simp [differs]
        · simp [h]
  rw [child?, found, child?]
  split <;> rfl

end Directory

/-! ## Places -/

/-- Directories and files, all below one outer directory. -/
structure FileTree where
  outer : Directory

/-- A directory of a tree, and the way to it: from the inside out, the name that was taken and the
directory that it was taken in. -/
structure Place where
  trail : List (String × Directory)
  here : Directory

namespace Place

open FileStore (staysPut)

/-- The place above. -/
def up (p : Place) : Place :=
  match p.trail with
  | [] => p
  | (_, above) :: trail => ⟨trail, above⟩

/-- The tree whose directory at the end of a way is the given one. -/
def tree : (trail : List (String × Directory)) → Directory → FileTree
  | [], d => ⟨d⟩
  | (name, above) :: trail, d => tree trail (above.put name (.directory d))

/-- The tree with an entry put under a name of a place. -/
def put (p : Place) (name : String) (e : Entry) : FileTree :=
  tree p.trail (p.here.put name e)

/-- The number of bytes that a name may have. -/
def longestName : Nat := 255

/-- What a name leads to. -/
def child? (p : Place) (name : String) : Except FileError (Option Entry) :=
  if staysPut name then .ok (some (.directory p.here))
  else if name = ".." then .ok (some (.directory p.up.here))
  else if longestName < name.utf8ByteSize then .error .nameTooLong
  else .ok (p.here.child? name)

/-- The place that a name leads to. -/
def enter (p : Place) (name : String) : Except FileError Place := do
  match ← p.child? name with
  | none => throw .notFound
  | some (.file _) => throw .notDirectory
  | some (.directory d) =>
    if staysPut name then return p
    else if name = ".." then return p.up
    else return ⟨(name, p.here) :: p.trail, d⟩

end Place

namespace FileTree

/-- The name of the working directory in the outer one. No path holds it, since it is a slash. -/
def workingName : String := "/"

/-- The tree whose working directory is empty. -/
def empty : FileTree :=
  ⟨[(workingName, .directory [])]⟩

/-- The entries of the working directory. -/
def working (t : FileTree) : Directory :=
  match t.outer.child? workingName with
  | some (.directory d) => d
  | _ => []

/-- The place where a path starts. -/
def start (t : FileTree) (outside : Bool) : Place :=
  if outside then ⟨[], t.outer⟩ else ⟨[(workingName, t.outer)], t.working⟩

/-- The place that names lead to. -/
def walk (t : FileTree) (outside : Bool) (names : List String) : Except FileError Place :=
  names.foldlM Place.enter (t.start outside)

/-! ## Paths -/

/-- The number of bytes that a path may have. -/
def longestPath : Nat := 4095

/-- Whether a path starts in the outer directory, and its names. -/
def splitPath (path : String) : Except FileError (Bool × List String) :=
  if longestPath < path.utf8ByteSize then .error .nameTooLong
  else .ok (path.startsWith "/", path.splitOn "/")

/-- The place of all names but the last, and the last name. -/
def target (t : FileTree) (outside : Bool) (names : List String) : Except FileError (Place × String) := do
  return (← t.walk outside names.dropLast, names.getLastD "")

/-! ## Operations -/

/-- Makes the directory of a path, whose slashes at the end are ignored. -/
def makeDirectory (t : FileTree) (path : String) : Except FileError FileTree := do
  let (outside, names) ← splitPath path
  let (p, last) ← t.target outside (Text.dropEndWhile (· == "") names)
  match ← p.child? last with
  | some _ => throw .alreadyExists
  | none => return p.put last (.directory [])

/-- Reads the file of a path. -/
def read (t : FileTree) (path : String) : Except FileError ByteArray := do
  let (outside, names) ← splitPath path
  let (p, last) ← t.target outside names
  match ← p.child? last with
  | some (.file contents) => return contents
  | some (.directory _) => throw .isDirectory
  | none => throw .notFound

/-- Writes the file of a path. -/
def write (t : FileTree) (path : String) (contents : ByteArray) : Except FileError FileTree := do
  let (outside, names) ← splitPath path
  let (p, last) ← t.target outside names
  match ← p.child? last with
  | some (.directory _) => throw .isDirectory
  | _ => return p.put last (.file contents)

/-! ## Listing -/

/-- The path of an entry of the directory of a path. -/
def pathIn (directory name : String) : String :=
  if directory.isEmpty then name else directory ++ "/" ++ name

mutual

/-- The files of an entry, under its path. -/
def filesOf (path : String) : Entry → List (String × ByteArray)
  | .file contents => [(path, contents)]
  | .directory entries => filesBelow path entries

/-- The files below a directory, under its path. -/
def filesBelow (path : String) : List (String × Entry) → List (String × ByteArray)
  | [] => []
  | (name, e) :: rest => filesOf (pathIn path name) e ++ filesBelow path rest

end

/-- The files below the working directory: path and contents. -/
def files (t : FileTree) : List (String × ByteArray) :=
  filesBelow "" t.working

/-! ## As a store -/

/-- Goes on with a changed tree, or with the old one after an error. -/
def updating (r : Except FileError FileTree) : StateM FileTree (Except FileError Unit) :=
  fun t =>
    match r with
    | .ok changed => (.ok (), changed)
    | .error e => (.error e, t)

instance : FileStore (StateM FileTree) where
  makeDirectory path := do updating ((← get).makeDirectory path)
  write path contents := do updating ((← get).write path contents)
  read path := do return (← get).read path

end FileTree

end Columnar
