import Columnar.Decimal.Reader
import Columnar.FileStore
import Columnar.Suite.Generate
import Columnar.Suite.Summary

/-!
# The command line

```text
index  <rows> [seed] [directory] [load directory]
join   <fact> <dim1> <dim2> <select> [seed] [skew] [keys] [directory] [load directory]
verify <expected> <actual>
```

The first two commands generate a suite, write its files below a directory and print its summary; the
third one judges an engine's output. A command is carried out on any store of files.
-/

namespace Columnar

/-- What a command line asks for. -/
inductive Command where
  | generate (suite : SuiteName) (config : SuiteConfig) (directory : String)
  | verify (expected actual : String)
  deriving Repr

namespace Command

/-! ## Arguments -/

/-- The arguments that are values: an option is refused, and after a first `--` every argument is one. -/
def values : List String → Option (List String)
  | [] => some []
  | arg :: args =>
    if arg = "--" then some args
    else if arg.startsWith "-" && arg ≠ "-" then none
    else (values args).map (arg :: ·)

/-- Reads a 64-bit number. -/
def word (arg : String) : Option UInt64 :=
  Text.readUInt64 arg.toList

/-- A path is not empty. -/
def path (arg : String) : Option String :=
  if arg.isEmpty then none else some arg

/-- Reads an argument that may be left out. -/
def optionalArg {α : Type} (read : String → Option α) (standard : α) : Option String → Option α
  | none => some standard
  | some arg => read arg

/-- The directory that files are written to unless another one is given. -/
def standardDirectory : String := "generated_data"

/-- Reads the arguments of `index`. -/
def parseIndex (args : List String) : Option Command := do
  let standard := SuiteConfig.standard
  let rows ← args[0]? >>= word
  let seed ← optionalArg word standard.seed args[1]?
  let directory ← optionalArg path standardDirectory args[2]?
  let loadDirectory := args[3]?.getD standard.loadDirectory
  if 4 < args.length then none
  else
    return .generate .index
      { standard with seed := seed, indexRows := rows, loadDirectory := loadDirectory } directory

/-- Reads the arguments of `join`. -/
def parseJoin (args : List String) : Option Command := do
  let standard := SuiteConfig.standard
  let fact ← args[0]? >>= word
  let dim1 ← args[1]? >>= word
  let dim2 ← args[2]? >>= word
  let select ← args[3]? >>= word
  let seed ← optionalArg word standard.seed args[4]?
  let skew ← optionalArg (fun arg => Decimal.readFloat arg.toList) standard.zipfSkew args[5]?
  let keys ← optionalArg word standard.zipfDomain args[6]?
  let directory ← optionalArg path standardDirectory args[7]?
  let loadDirectory := args[8]?.getD standard.loadDirectory
  if 9 < args.length then none
  else
    return .generate .join
      { standard with
        seed := seed
        joinSizes := ⟨fact, dim1, dim2, select⟩
        zipfSkew := skew
        zipfDomain := keys
        loadDirectory := loadDirectory }
      directory

/-- Reads the arguments of `verify`. -/
def parseVerify : List String → Option Command
  | [expected, actual] => do return .verify (← path expected) (← path actual)
  | _ => none

/-- Reads a command line; there is none for one that is misused. -/
def parse : List String → Option Command
  | [] => none
  | name :: args =>
    match name, values args with
    | "index", some args => parseIndex args
    | "join", some args => parseJoin args
    | "verify", some args => parseVerify args
    | _, _ => none

end Command

/-! ## Carrying out a command -/

/-- What a program leaves: its exit code and what it printed. -/
structure Outcome where
  exitCode : UInt8
  stdout : String
  stderr : String
  deriving DecidableEq, Repr

/-- Why a command is not carried out. -/
inductive CommandError where
  | suite (cause : SuiteError)
  | file (path : String) (cause : FileError)
  deriving Repr

/-- The sentence that tells why. -/
def CommandError.message : CommandError → String
  | suite cause => cause.message
  | file path cause => s!"I/O error on {path}: {cause.message}"

namespace Command

/-- The path of a file in a directory. -/
def fileIn (directory name : String) : String :=
  if directory.endsWith "/" then directory ++ name else directory ++ "/" ++ name

section Store

variable {m : Type → Type} [Monad m] [FileStore m]

/-- An operation on a path, whose error names the path. -/
def onPath {α : Type} (path : String) (operation : m (Except FileError α)) : ExceptT CommandError m α :=
  ExceptT.mk (do return (← operation).mapError (.file path))

/-- Writes texts to files in a directory, in order. -/
def writeFiles (directory : String) : List (String × String) → ExceptT CommandError m Unit
  | [] => return ()
  | (name, text) :: rest => do
    let path := fileIn directory name
    onPath path (FileStore.write path text.toUTF8)
    writeFiles directory rest

/-- Reads the text of a file. -/
def readText (path : String) : ExceptT CommandError m String := do
  let contents ← onPath path (FileStore.read path)
  match String.fromUTF8? contents with
  | some text => return text
  | none => throw (.file path .notText)

/-- Carries out a command, up to its first error. -/
def perform : Command → ExceptT CommandError m Outcome
  | generate name config directory => do
    let suite ← ExceptT.mk (pure ((Suite.generate config name).mapError .suite))
    onPath directory (FileStore.makeDirectories directory)
    writeFiles directory suite.files
    return ⟨0, suite.summary ++ "\n\nOutput directory: " ++ directory ++ "\n", ""⟩
  | verify expected actual => do
    let expectedText ← readText expected
    let actualText ← readText actual
    match Verdict.judge expectedText actualText with
    | .pass => return ⟨0, s!"PASS {actual}\n", ""⟩
    | .skip reason => return ⟨0, s!"SKIP {actual}: {reason}\n", ""⟩
    | .fail reason => return ⟨1, s!"FAIL {actual}: {reason}\n", ""⟩

/-- Carries out a command line. A misused one changes nothing. -/
def run (args : List String) : m Outcome := do
  match parse args with
  | none => return ⟨2, "", ""⟩
  | some command =>
    match ← command.perform.run with
    | .ok outcome => return outcome
    | .error e => return ⟨1, "", s!"error: {e.message}\n"⟩

end Store

end Command

end Columnar
