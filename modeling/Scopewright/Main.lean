import Scopewright.CommandLine.Run

/-!
# The program

The files of the machine, and the entry point.
-/

set_option autoImplicit false

namespace Scopewright

/-- The error of the system in the library's words. -/
def FileError.ofSystem : IO.Error → FileError
  | .noFileOrDirectory .. => .notFound
  | .inappropriateType _ code _ => if code = 21 then .isDirectory else .notDirectory
  | e => .system e.toString

/-- Do something with a file, and catch the error of the system. -/
def FileAccess.attempt {α : Type} (action : IO α) : IO (Except FileError α) := do
  match ← action.toBaseIO with
  | .ok a => return .ok a
  | .error e => return .error (.ofSystem e)

/-- The files of the machine. -/
def FileAccess.system : FileAccess IO where
  read path := attempt (IO.FS.readBinFile path)
  isFile path := return (← attempt (IO.FS.readBinFile path)).isOk
  write path text := attempt (IO.FS.writeFile path text)

end Scopewright

open Scopewright in
/-- Run the program with its arguments. -/
def main (args : List String) : IO UInt32 := do
  let outcome ← CommandLine.run FileAccess.system args
  IO.print outcome.output
  IO.eprint outcome.errors
  return outcome.status.toUInt32
