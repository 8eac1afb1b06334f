import Formulary.Expression.Basic
import Formulary.Function.Builtin

/-!
# Registries of functions

A `Registry` holds the functions that expressions can call. A name is looked up in upper case, so the
case in which a function is written does not matter, and a definition replaces the one that its name
stood for.

`Registry.checkCalls` reports the calls of an expression that cannot succeed whatever the data.
-/

namespace Formulary

/-- The functions that expressions can call, by their names in upper case. -/
abbrev Registry := NameMap Definition

namespace Registry

/-- Adds a function; one with the same name gives way. -/
def register (r : Registry) (d : Definition) : Registry := r.insert (Text.upperString d.name) d

/-- The functions there are. -/
def builtin : Registry := Builtin.all.foldl register NameMap.empty

/-- The function that a name stands for. -/
def find? (r : Registry) (name : String) : Option Definition := r.get? (Text.upperString name)

/-- The function that a name stands for. -/
def lookup (r : Registry) (name : String) : Except Fault Definition :=
  match r.find? name with
  | some d => .ok d
  | none => .error (.unknownFunction name)

/-- Whether one signature is shown before another: by group, then by name. -/
def shownBefore (a b : Signature) : Bool :=
  ((Ord.compare a.category.rank b.category.rank).then (Ord.compare a.name b.name)).isLE

/-- What is shown of all functions. -/
def signatures (r : Registry) : List Signature :=
  (r.entries.map fun entry => entry.2.signature).mergeSort shownBefore

/-- What is wrong with a call, whatever its arguments are. -/
def checkCall (r : Registry) (function : String) (count : Nat) : Option Fault :=
  match r.lookup function with
  | .error fault => some fault
  | .ok d =>
    match d.checkArity count with
    | .error fault => some fault
    | .ok () => none

/-- What is wrong with the calls of an expression, whatever the data. -/
def checkCalls (r : Registry) (e : Expression) : List Fault :=
  e.calls.filterMap fun call => r.checkCall call.1 call.2

/-- Whether an expression may yield something else at another time. -/
def isVolatile (r : Registry) (e : Expression) : Bool :=
  e.functions.any fun name => (r.find? name).any Definition.volatile

end Registry

end Formulary
