/-!
# Failures of a command

A `Failure` says what could not be done, and why: each cause is itself brought about by the next.
-/

namespace Formulary.CommandLine

/-- Why a command could not be done. -/
structure Failure where
  /-- What could not be done. -/
  summary : String
  /-- The causes, the nearest first. -/
  causes : List String := []
deriving DecidableEq, Repr

namespace Failure

/-- A text with all its lines but the first indented. -/
def indented (width : Nat) (text : String) : String :=
  ("\n" ++ String.ofList (List.replicate width ' ')).intercalate (text.splitOn "\n")

/-- A number that is flush right with others of up to five digits. -/
def flushRight (n : Nat) : String := String.ofList (List.leftpad 5 ' ' (toString n).toList)

/-- The lines that give the causes. Several are numbered, from zero. -/
def causeLines : List String → String
  | [] => ""
  | [cause] => "\n\nCaused by:\n    " ++ indented 4 cause
  | causes =>
    let lines := causes.zipIdx.map fun (cause, n) => "\n" ++ flushRight n ++ ": " ++ indented 7 cause
    "\n\nCaused by:" ++ String.join lines

/-- What is said about a failure. -/
def message (f : Failure) : String := "Error: " ++ f.summary ++ causeLines f.causes

end Failure

end Formulary.CommandLine
