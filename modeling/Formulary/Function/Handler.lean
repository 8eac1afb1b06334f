import Formulary.Function.Arithmetic
import Formulary.Function.Coercion
import Formulary.Function.Dates
import Formulary.Function.Texts

/-!
# Handlers

What stands behind a function. An **eager** function is given the values of its arguments, coerced to
the kinds that it wants; `Eager.apply` says what it makes of them. A **lazy** function looks at its
arguments one by one and decides which of them count. An **external** function is served by a provider
outside of the program.
-/

namespace Formulary

/-- The functions that are given values. -/
inductive Eager where
  | add
  | subtract
  | multiply
  | divide
  | round
  | abs
  | min
  | max
  | not
  | equals
  | greaterThan
  | lessThan
  | concat
  | upper
  | lower
  | trim
  | contains
  | length
  | substring
  | now
  | today
  | dateAdd
  | dateDiff
  | formatDate
  | isEmpty
  | coalesce
  | static
deriving DecidableEq, Repr

/-- The functions that look at their arguments one by one. -/
inductive Lazy where
  | ifElse
  | and
  | or
  | isNull
deriving DecidableEq, Repr

/-- What stands behind a function. -/
inductive Handler where
  /-- A function of values. -/
  | eager (f : Eager)
  /-- A function that decides which of its arguments count. -/
  | lazy (f : Lazy)
  /-- A provider outside of the program. -/
  | external
deriving DecidableEq, Repr

namespace Eager

/-- A test of two values. -/
def test (function : String) (holds : Value → Value → Except Fault Bool) :
    List Value → Except Fault Value
  | [a, b] => (holds a b).map .boolean
  | _ => .error (.invalidArgument function .notTwoValues)

/-- The first value that is not null. -/
def firstPresent (arguments : List Value) : Value :=
  (arguments.find? fun v => v ≠ .null).getD .null

/-- The option list given. -/
def givenList : List Value → Except Fault Value
  | .optionList items :: _ => .ok (.optionList items)
  | other :: _ => .error (.typeMismatch "STATIC" 1 .optionList (some other.kind))
  | [] => .error (.invalidArgument "STATIC" .missingOptions)

/-- What a function makes of its arguments, at a moment. -/
def apply (clock : DateTime) (arguments : List Value) : Eager → Except Fault Value
  | .add => Arithmetic.add arguments
  | .subtract => Arithmetic.subtract arguments
  | .multiply => Arithmetic.multiply arguments
  | .divide => Arithmetic.divide arguments
  | .round => Arithmetic.round arguments
  | .abs => Arithmetic.abs arguments
  | .min => Arithmetic.min arguments
  | .max => Arithmetic.max arguments
  | .not => (Argument.boolean "NOT" arguments 0).map fun b => .boolean !b
  | .equals => test "EQUALS" (fun a b => .ok (a.equal b)) arguments
  | .greaterThan =>
    test "GREATER_THAN" (fun a b => (a.compare "GREATER_THAN" b).map (· == .gt)) arguments
  | .lessThan => test "LESS_THAN" (fun a b => (a.compare "LESS_THAN" b).map (· == .lt)) arguments
  | .concat => Texts.concat arguments
  | .upper => Texts.upper arguments
  | .lower => Texts.lower arguments
  | .trim => Texts.trim arguments
  | .contains => Texts.contains arguments
  | .length => Texts.length arguments
  | .substring => Texts.substring arguments
  | .now => .ok (.dateTime clock)
  | .today => .ok (.dateTime clock.startOfDay)
  | .dateAdd => Dates.add arguments
  | .dateDiff => Dates.difference arguments
  | .formatDate => Dates.format arguments
  | .isEmpty => .ok (.boolean (arguments.head?.all Value.isEmpty))
  | .coalesce => .ok (firstPresent arguments)
  | .static => givenList arguments

end Eager

end Formulary
