import Formulary.Decimal.Arithmetic
import Formulary.Function.Argument

/-!
# Arithmetic functions

Functions on decimals. A result that no decimal holds is an overflow.
-/

namespace Formulary.Arithmetic

/-- The result of an operation that may be too large. -/
def orOverflow (function : String) (result : Option Decimal) : Except Fault Decimal :=
  match result with
  | some n => .ok n
  | none => .error (.numericOverflow function)

/-- The sum of all arguments, added up from the first. -/
def add (arguments : List Value) : Except Fault Value := do
  let sum ← Argument.foldNumbers "ADD" (fun a b => orOverflow "ADD" (a.add? b)) 0 .zero arguments
  return .number sum

/-- The first argument less the second. -/
def subtract (arguments : List Value) : Except Fault Value := do
  let a ← Argument.number "SUBTRACT" arguments 0
  let b ← Argument.number "SUBTRACT" arguments 1
  return .number (← orOverflow "SUBTRACT" (a.sub? b))

/-- The product of all arguments, multiplied from the first. -/
def multiply (arguments : List Value) : Except Fault Value := do
  let step a b := orOverflow "MULTIPLY" (Decimal.mul? a b)
  let product ← Argument.foldNumbers "MULTIPLY" step 0 .one arguments
  return .number product

/-- The first argument divided by the second. -/
def divide (arguments : List Value) : Except Fault Value := do
  let a ← Argument.number "DIVIDE" arguments 0
  let b ← Argument.number "DIVIDE" arguments 1
  if b.isZero then throw .divisionByZero
  return .number (← orOverflow "DIVIDE" (a.div? b))

/-- The first argument rounded to as many places as the second says, or to none. -/
def round (arguments : List Value) : Except Fault Value := do
  let n ← Argument.number "ROUND" arguments 0
  let places ← if 1 < arguments.length then Argument.integer "ROUND" arguments 1 else pure 0
  if h : 0 ≤ places ∧ places ≤ Decimal.maxScale then
    return .number (n.roundTo places.toNat (by omega))
  else throw (.invalidArgument "ROUND" (.invalidPlaces places))

/-- The magnitude of the argument. -/
def abs (arguments : List Value) : Except Fault Value := do
  return .number (← Argument.number "ABS" arguments 0).abs

/-- The first of the arguments that no later one stands before in an order. -/
def extreme (function : String) (before : Ordering) (arguments : List Value) : Except Fault Value := do
  let step (best : Option Decimal) (n : Decimal) : Except Fault (Option Decimal) :=
    .ok (some (best.elim n fun b => if n.compare b = before then n else b))
  match ← Argument.foldNumbers function step 0 none arguments with
  | some n => return .number n
  | none => throw (.invalidArgument function .noArguments)

/-- The smallest argument. -/
def min (arguments : List Value) : Except Fault Value := extreme "MIN" .lt arguments

/-- The largest argument. -/
def max (arguments : List Value) : Except Fault Value := extreme "MAX" .gt arguments

end Formulary.Arithmetic
