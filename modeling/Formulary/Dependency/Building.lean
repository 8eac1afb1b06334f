import Formulary.Dependency.Order
import Formulary.Expression.Reader

/-!
# The dependency graph of a form

`DependencyGraph.ofFields` reads the expressions of all fields and collects their edges. It refuses two
fields of one name, and fields that depend on one another in a circle. An expression that cannot be read
has no edges and is reported as skipped.

A condition or a cross-field rule may well look at its own field. A formula or an expression for options
may not: it would depend on what it yields.
-/

namespace Formulary

/-- Whether an expression in this role yields something that it must not depend on. -/
def Role.yields : Role → Bool
  | formula => true
  | options => true
  | condition => false
  | crossField => false

namespace DependencyGraph

/-- The first name that occurs a second time. -/
def firstRepeated? (seen : List String) : List String → Option String
  | [] => none
  | name :: rest => if name ∈ seen then some name else firstRepeated? (name :: seen) rest

/-- The edges of an expression of a field, among fields with the given names. -/
def edgesOf (names : List String) (field : String) (role : Role) (e : Expression) :
    Except Fault (List Edge) :=
  let mentioned := e.variableNames.filter fun name => name ∈ names
  if role.yields ∧ field ∈ mentioned then .error (.cycleDetected [field, field])
  else .ok ((mentioned.filter (· ≠ field)).map fun name => ⟨field, name, role⟩)

/-- What a list of expressions contributes to a graph. -/
def collect (limits : Limits) (names : List String) :
    List (String × Role × String) → Except Fault (List Edge × List SkippedExpression)
  | [] => .ok ([], [])
  | (field, role, text) :: rest =>
    match Expression.ofText limits text with
    | .error fault => do
      let (edges, skipped) ← collect limits names rest
      return (edges, ⟨field, role, fault⟩ :: skipped)
    | .ok e => do
      let found ← edgesOf names field role e
      let (edges, skipped) ← collect limits names rest
      return (found ++ edges, skipped)

/-- The graph of the fields of a form. -/
def ofFields (limits : Limits) (fields : List Field) : Except Fault DependencyGraph := do
  let names := fields.map Field.name
  if let some name := firstRepeated? [] names then throw (.duplicateField name)
  let texts := fields.flatMap fun f => f.expressions.map fun (role, text) => (f.name, role, text)
  let (edges, skipped) ← collect limits names texts
  let g : DependencyGraph :=
    { names, calculated := (fields.filter Field.isCalculated).map Field.name, edges, skipped }
  g.checkAcyclic
  return g

end DependencyGraph

end Formulary
