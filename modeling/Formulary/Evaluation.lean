import Formulary.Expression.Reader
import Formulary.Function.Registry

/-!
# Evaluation

`Context.evaluate` gives the value of an expression, or the fault that keeps it from having one. A
`Context` is all that the value depends on besides the expression: what its names stand for, the
functions there are, the kind of expression it is, and the time.

* A **local** name hides a field of the same name.
* The arguments of an eager function are evaluated from left to right, then coerced from left to right,
  and the first fault is that of the call.
* A lazy function is given the outcome of each argument and takes up only those that it decides on, so
  a fault in any other does not matter.

Evaluation reads the context and changes nothing.
-/

namespace Formulary

/-- What kind of expression is evaluated. -/
inductive Scope where
  /-- A formula, a condition or a rule. -/
  | formula
  /-- An expression for options, which may call the functions that yield options. -/
  | options
deriving DecidableEq, Repr

/-- What the value of an expression depends on. -/
structure Context where
  /-- The values of fields. -/
  data : FormData
  /-- Names that hide fields. -/
  locals : FormData := .empty
  /-- The functions there are. -/
  registry : Registry := .builtin
  /-- The kind of expression. -/
  scope : Scope := .formula
  /-- The time. -/
  now : DateTime

/-- An argument of a lazy function. -/
structure Operand where
  /-- Whether the argument is a variable. -/
  isVariable : Bool
  /-- What the argument evaluates to. -/
  outcome : Except Fault Value

namespace Lazy

/-- Whether all conditions from a position on hold; the first that does not decides. -/
def conjunction (position : Nat) : List Operand → Except Fault Bool
  | [] => .ok true
  | operand :: rest => do
    if ← (← operand.outcome).condition "AND" position then conjunction (position + 1) rest
    else return false

/-- Whether any condition from a position on holds; the first that does decides. -/
def disjunction (position : Nat) : List Operand → Except Fault Bool
  | [] => .ok false
  | operand :: rest => do
    if ← (← operand.outcome).condition "OR" position then return true
    else disjunction (position + 1) rest

/-- The argument that a condition selects. Null is selected where there is none. -/
def selection : List Operand → Except Fault Value
  | condition :: chosen :: others => do
    if ← (← condition.outcome).condition "IF" 0 then chosen.outcome
    else
      match others with
      | other :: _ => other.outcome
      | [] => return .null
  | arguments => .error (.arityMismatch "IF" "2 to 3" arguments.length)

/-- Whether the argument is null. A name that stands for nothing counts as null. -/
def nullity : List Operand → Except Fault Bool
  | [operand] =>
    match operand.isVariable, operand.outcome with
    | true, .error _ => .ok true
    | _, outcome => outcome.map fun v => decide (v = .null)
  | arguments => .error (.arityMismatch "IS_NULL" "1" arguments.length)

/-- What a function makes of its arguments. -/
def apply (arguments : List Operand) : Lazy → Except Fault Value
  | .ifElse => selection arguments
  | .and => (conjunction 0 arguments).map .boolean
  | .or => (disjunction 0 arguments).map .boolean
  | .isNull => (nullity arguments).map .boolean

end Lazy

namespace Context

/-- What a name stands for. -/
def get? (c : Context) (name : String) : Option Value := (c.locals.get? name).or (c.data.get? name)

/-- The value that a name stands for. -/
def lookup (c : Context) (name : String) : Except Fault Value :=
  match c.get? name with
  | some v => .ok v
  | none => .error (.unknownVariable name)

/-- Lets a name stand for a value, whatever it stood for before. -/
def bind (c : Context) (name : String) (v : Value) : Context :=
  { c with locals := c.locals.insert name v }

/-- The function that a call with that many arguments calls, if it may. -/
def resolve (c : Context) (function : String) (count : Nat) : Except Fault Definition := do
  let d ← c.registry.lookup function
  d.checkArity count
  if d.optionsOnly && c.scope != .options then throw (.optionsOnly d.name)
  return d

/-- What a function yields for values. -/
def apply (c : Context) (d : Definition) (arguments : List Value) : Except Fault Value :=
  match d.handler with
  | .eager f => do f.apply c.now (← d.coerceAll arguments)
  | .lazy f => f.apply (arguments.map fun v => ⟨false, .ok v⟩)
  | .external => .error (.externalCall d.name)

mutual

/-- The value of an expression. -/
def evaluate (c : Context) : Expression → Except Fault Value
  | .literal v => .ok v
  | .var name => c.lookup name
  | .call function arguments => do
    let d ← c.resolve function arguments.length
    match d.handler with
    | .eager f => f.apply c.now (← d.coerceAll (← c.evaluateAll arguments))
    | .lazy f => f.apply (c.operands arguments)
    | .external => throw (.externalCall d.name)

/-- The values of expressions, up to the first that has none. -/
def evaluateAll (c : Context) : List Expression → Except Fault (List Value)
  | [] => .ok []
  | e :: rest => do
    let v ← c.evaluate e
    return v :: (← c.evaluateAll rest)

/-- Expressions as arguments of a lazy function. -/
def operands (c : Context) : List Expression → List Operand
  | [] => []
  | e :: rest => ⟨e matches .var _, c.evaluate e⟩ :: c.operands rest

end

/-- The value of an expression given as a text. -/
def evaluateText (c : Context) (limits : Limits) (text : String) : Except Fault Value := do
  c.evaluate (← Expression.ofText limits text)

/-- Whether a condition given as a text holds. One that fails does not hold. -/
def holds (c : Context) (limits : Limits) (text : String) : Bool :=
  match c.evaluateText limits text >>= Value.condition "CONDITION" 0 with
  | .ok b => b
  | .error _ => false

end Context

end Formulary
