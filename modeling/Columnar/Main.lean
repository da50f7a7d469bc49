import Columnar.CommandLine

/-!
# The program

Carries out the command line on the files of the machine.
-/

namespace Columnar

/-- The cause of a failed operation on the machine's files. -/
def FileError.ofIOError : IO.Error → FileError
  | .noFileOrDirectory .. => .notFound
  | .alreadyExists .. => .alreadyExists
  | .inappropriateType _ 21 _ => .isDirectory
  | .inappropriateType .. => .notDirectory
  | .invalidArgument _ 36 _ => .nameTooLong
  | e => .other e.toString

/-- An operation on the machine's files, with its error as a result. -/
def onMachine {α : Type} (operation : IO α) : IO (Except FileError α) := do
  try
    return .ok (← operation)
  catch e =>
    return .error (.ofIOError e)

instance : FileStore IO where
  makeDirectory path := onMachine (IO.FS.createDir path)
  write path contents := onMachine (IO.FS.writeBinFile path contents)
  read path := onMachine (IO.FS.readBinFile path)

end Columnar

/-- Runs the program. -/
def main (args : List String) : IO UInt32 := do
  let outcome ← Columnar.Command.run args
  (← IO.getStdout).putStr outcome.stdout
  (← IO.getStderr).putStr outcome.stderr
  return outcome.exitCode.toUInt32
