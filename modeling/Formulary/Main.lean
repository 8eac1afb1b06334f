import Formulary.Clock
import Formulary.CommandLine.Program

/-!
# The command line program

Reads the files that a command names, does the command and ends as it says.
-/

open Formulary
open Formulary.CommandLine

/-- The text of a file, or the reason why it cannot be read. -/
def readText (path : String) : IO (Except String String) := do
  try return .ok (← IO.FS.readFile path)
  catch reason => return .error (toString reason)

/-- The files with the given paths. -/
def readFiles (paths : List String) : IO Files := do
  let texts ← paths.mapM fun path => do return (path, ← readText path)
  return fun path => (texts.lookup path).getD (.error "it was not read")

/-- What the program leaves behind for some arguments. -/
def outcomeOf (arguments : List String) : IO Outcome := do
  match Command.ofArguments arguments with
  | .error detour => return detour.outcome
  | .ok command => return command.run (← readFiles command.paths) (← Clock.now)

def main (arguments : List String) : IO UInt32 := do
  let outcome ← outcomeOf arguments
  IO.print outcome.output
  IO.eprint outcome.complaint
  return outcome.exitCode.toUInt32
