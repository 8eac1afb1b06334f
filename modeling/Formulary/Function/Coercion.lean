import Formulary.Calendar.Reader
import Formulary.Options.Conversion
import Formulary.Text.Case

/-!
# Coercion and comparison of values

A function says of which kind it wants each argument. `Value.coerce` gives it one: a value of that
kind stays, a text is read as the kind wanted, and anything but an option list can be had as its text.

`Value.equal` and `Value.compare` compare across kinds in the same spirit: a text takes part as the
number, date or truth value that it spells.
-/

namespace Formulary

/-- What a function wants for an argument, or yields. -/
inductive ArgumentKind where
  /-- Any value. -/
  | any
  /-- A value of one kind. -/
  | only (kind : ValueKind)
deriving DecidableEq, Repr

/-- The name of what is wanted, in messages. -/
def ArgumentKind.name : ArgumentKind → String
  | any => "any"
  | only kind => kind.name

namespace Value

/-- The truth value that a text spells. -/
def readBool? (s : String) : Option Bool :=
  let word := Text.lowerAscii (Text.trim s.toList)
  if word = "true".toList then some true
  else if word = "false".toList then some false
  else none

/-- The fault of an argument that is not of the kind wanted. -/
def mismatch (function : String) (position : Nat) (kind : ValueKind) (found : Value) : Fault :=
  .typeMismatch function (position + 1) kind (some found.kind)

/-- The argument at a position of a function, as a value of a kind. -/
def coerceTo (function : String) (position : Nat) (kind : ValueKind) (v : Value) :
    Except Fault Value :=
  let failure : Except Fault Value := .error (mismatch function position kind v)
  match kind, v with
  | .number, .number n => .ok (.number n)
  | .number, .string s => (Decimal.ofText? s).elim failure (.ok ∘ .number)
  | .boolean, .boolean b => .ok (.boolean b)
  | .boolean, .string s => (readBool? s).elim failure (.ok ∘ .boolean)
  | .string, .string s => .ok (.string s)
  | .string, .optionList _ => failure
  | .string, other => .ok (.string other.toText)
  | .dateTime, .dateTime d => .ok (.dateTime d)
  | .dateTime, .string s => (DateTime.ofText? s).elim failure (.ok ∘ .dateTime)
  | .optionList, .optionList items => .ok (.optionList items)
  | .optionList, .string s => (OptionList.ofText s).map .optionList
  | .null, .null => .ok .null
  | _, _ => failure

/-- The argument at a position of a function, as what the function wants there. -/
def coerce (function : String) (position : Nat) : ArgumentKind → Value → Except Fault Value
  | .any, v => .ok v
  | .only kind, v => coerceTo function position kind v

/-- The argument at a position of a function, as a condition. -/
def condition (function : String) (position : Nat) (v : Value) : Except Fault Bool := do
  match ← coerceTo function position .boolean v with
  | .boolean b => return b
  | other => throw (mismatch function position .boolean other)

/-- Whether two values are equal. A text equals the number, date or truth value that it spells; other
values of different kinds differ. -/
def equal : Value → Value → Bool
  | number a, string s => (Decimal.ofText? s).any fun b => decide (a.Same b)
  | string s, number b => (Decimal.ofText? s).any fun a => decide (a.Same b)
  | dateTime a, string s => DateTime.ofText? s = some a
  | string s, dateTime b => DateTime.ofText? s = some b
  | boolean a, string s => readBool? s = some a
  | string s, boolean b => readBool? s = some b
  | a, b => decide (a.Same b)

/-- The order of two values that have one. A text takes part as the number or date that it spells;
texts are ordered by their characters, and false comes before true. -/
def compare? : Value → Value → Option Ordering
  | number a, number b => some (a.compare b)
  | number a, string s => (Decimal.ofText? s).map fun b => a.compare b
  | string s, number b => (Decimal.ofText? s).map fun a => a.compare b
  | dateTime a, dateTime b => some (a.compare b)
  | dateTime a, string s => (DateTime.ofText? s).map fun b => a.compare b
  | string s, dateTime b => (DateTime.ofText? s).map fun a => a.compare b
  | string a, string b => some (Ord.compare a b)
  | boolean a, boolean b => some (Ord.compare a b)
  | _, _ => none

/-- The order of the two arguments of a function. -/
def compare (function : String) (a b : Value) : Except Fault Ordering :=
  match compare? a b with
  | some order => .ok order
  | none => .error (.typeMismatch function 2 a.kind (some b.kind))

end Value

end Formulary
