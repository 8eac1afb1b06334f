import Formulary.Fault

/-!
# Arguments of a function

A function takes its arguments from a list of values, each as a value of one kind. After coercion
every argument is of its kind; a function called without coercion finds here that one is not, or is
missing.
-/

namespace Formulary.Argument

/-- The fault of an argument that is missing or of another kind. -/
def mismatch (function : String) (position : Nat) (kind : ValueKind) (found : Option Value) : Fault :=
  .typeMismatch function (position + 1) kind (found.map Value.kind)

/-- An argument that is a number. -/
def number (function : String) (arguments : List Value) (position : Nat) : Except Fault Decimal :=
  match arguments[position]? with
  | some (.number n) => .ok n
  | other => .error (mismatch function position .number other)

/-- An argument that is a truth value. -/
def boolean (function : String) (arguments : List Value) (position : Nat) : Except Fault Bool :=
  match arguments[position]? with
  | some (.boolean b) => .ok b
  | other => .error (mismatch function position .boolean other)

/-- An argument that is a text. -/
def string (function : String) (arguments : List Value) (position : Nat) : Except Fault String :=
  match arguments[position]? with
  | some (.string s) => .ok s
  | other => .error (mismatch function position .string other)

/-- An argument that is a date with a time of day. -/
def dateTime (function : String) (arguments : List Value) (position : Nat) :
    Except Fault DateTime :=
  match arguments[position]? with
  | some (.dateTime d) => .ok d
  | other => .error (mismatch function position .dateTime other)

/-- Whether an integer fits 64 bits with a sign. -/
def FitsWord (n : Int) : Prop := -9223372036854775808 ≤ n ∧ n < 9223372036854775808

instance (n : Int) : Decidable (FitsWord n) := inferInstanceAs (Decidable (_ ∧ _))

/-- An argument that is a whole number of at most 64 bits. -/
def integer (function : String) (arguments : List Value) (position : Nat) : Except Fault Int := do
  let n ← number function arguments position
  match n.toInt? with
  | none => throw (.invalidArgument function (.notWhole (position + 1) n))
  | some i => if FitsWord i then return i else throw (.numericOverflow "integer conversion")

/-- All arguments from a position on as numbers, taken into an accumulator one after the other. -/
def foldNumbers {α : Type} (function : String) (step : α → Decimal → Except Fault α) (position : Nat)
    (acc : α) (arguments : List Value) : Except Fault α :=
  if position < arguments.length then do
    let n ← number function arguments position
    foldNumbers function step (position + 1) (← step acc n) arguments
  else .ok acc
termination_by arguments.length - position

end Formulary.Argument
