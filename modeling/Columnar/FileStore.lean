/-!
# Stores of files

What a program does with files goes through three operations on paths: making a directory, writing a
file, and reading one. An operation that fails tells why, and a program that is written against these
operations runs on the machine's files as well as on a value that holds files.

A directory is made with its parents by asking for it first, and where a parent is missing, by making
the parent in the same way and asking again.

## Termination

Making a directory with its parents goes from a path to its parent, which has fewer names.

## Main statements

* `FileStore.length_parentNames_lt`: a path's parent has fewer names.
-/

namespace Columnar

/-- Why an operation on a path fails. -/
inductive FileError where
  | notFound
  | alreadyExists
  | notDirectory
  | isDirectory
  | nameTooLong
  | notText
  | other (text : String)
  deriving DecidableEq, Repr

/-- The sentence that tells why, with the number that the operating system gives the cause. -/
def FileError.message : FileError → String
  | notFound => "No such file or directory (os error 2)"
  | alreadyExists => "File exists (os error 17)"
  | notDirectory => "Not a directory (os error 20)"
  | isDirectory => "Is a directory (os error 21)"
  | nameTooLong => "File name too long (os error 36)"
  | notText => "stream did not contain valid UTF-8"
  | other text => text

/-- A store of files. -/
class FileStore (m : Type → Type) where
  /-- Makes a directory whose parent is there and that is not there itself. -/
  makeDirectory : String → m (Except FileError Unit)
  /-- Writes a file, in the place of one that is there. -/
  write : String → ByteArray → m (Except FileError Unit)
  /-- Reads a file. -/
  read : String → m (Except FileError ByteArray)

namespace FileStore

/-- Whether a name leads from a directory to itself. -/
def staysPut (name : String) : Bool :=
  name = "" || name = "."

/-- The names of the directory above, with names given from the last to the first. Names that stay
where they are do not count. -/
def parentNames (names : List String) : List String :=
  (names.dropWhile staysPut).tail.dropWhile staysPut

theorem length_parentNames_lt (last : String) (before : List String) :
    (parentNames (last :: before)).length < (last :: before).length := by
  have outer := (List.dropWhile_sublist (l := ((last :: before).dropWhile staysPut).tail) staysPut).length_le
  have inner := (List.dropWhile_sublist (l := last :: before) staysPut).length_le
  rw [List.length_tail] at outer
  simp only [parentNames, List.length_cons] at outer inner ⊢
  omega

section Directories

variable {m : Type → Type} [Monad m] [FileStore m]

/-- Makes a directory that may be there already. It is there if it is refused as a file. -/
def ensureDirectory (path : String) : m (Except FileError Unit) := do
  match ← makeDirectory path with
  | .ok () => return .ok ()
  | .error e =>
    match ← read path with
    | .error .isDirectory => return .ok ()
    | _ => return .error e

/-- Makes the directory of names given from the last to the first, and where its parent is missing, the
parent first. -/
def makeReversed (names : List String) : m (Except FileError Unit) :=
  match names with
  | [] => return .ok ()
  | last :: before => do
    let path := "/".intercalate (last :: before).reverse
    match ← ensureDirectory path with
    | .error .notFound =>
      match ← makeReversed (parentNames (last :: before)) with
      | .error e => return .error e
      | .ok () => ensureDirectory path
    | r => return r
termination_by names.length
decreasing_by exact length_parentNames_lt last before

/-- Makes a directory and its parents, unless they are there. A `.` at the end names a directory that
must be there before it is asked for. -/
def makeDirectories (path : String) : m (Except FileError Unit) :=
  makeReversed (path.splitOn "/").reverse

end Directories

end FileStore

end Columnar
