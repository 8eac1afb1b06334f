import Formulary.Dependency.Building
import Formulary.Evaluation

/-!
# Recalculation

`recalculate` computes the calculated fields of a form in the order of their dependencies and writes each
value back before the next is computed. A formula that fails leaves its field as it is, or gives it the
default of its type if it had no value, and the other fields are computed all the same.

Given the field that changed, only the fields that depend on it are computed.
-/

namespace Formulary

/-- A field whose formula failed. -/
structure FieldFailure where
  /-- The field. -/
  field : String
  /-- Why the formula failed. -/
  fault : Fault
deriving DecidableEq, Repr

/-- What a recalculation has come to. -/
structure Recalculated where
  /-- The form data. -/
  data : FormData
  /-- The fields computed, in order. -/
  recomputed : List String := []
  /-- The fields whose formulas failed, in order. -/
  failures : List FieldFailure := []
  /-- The number of fields that were to be computed. -/
  candidates : Nat
  /-- How many fields have been computed. -/
  computed : Nat := 0
  /-- How many formulas have failed. -/
  failed : Nat := 0
  /-- How many of their fields took the default of their type. -/
  defaulted : Nat := 0

namespace Recalculated

/-- What a recalculation has come to, in figures. -/
structure Figures where
  /-- The number of fields that were to be computed. -/
  candidates : Nat
  /-- The number of fields computed. -/
  computed : Nat
  /-- The number of fields whose formulas failed. -/
  failed : Nat
  /-- How many of these took the default of their type. -/
  defaulted : Nat
deriving DecidableEq, Repr

/-- The figures of a recalculation. -/
def figures (r : Recalculated) : Figures := ⟨r.candidates, r.computed, r.failed, r.defaulted⟩

/-- Whether no formula failed. -/
def isClean (r : Recalculated) : Bool := r.failures.isEmpty

/-- Notes the value of a field. -/
def succeed (r : Recalculated) (field : Field) (v : Value) : Recalculated :=
  { r with
    data := r.data.insert field.name v
    recomputed := r.recomputed ++ [field.name]
    computed := r.computed + 1 }

/-- Notes that the formula of a field failed. -/
def fail (r : Recalculated) (useDefault : Bool) (field : Field) (fault : Fault) : Recalculated :=
  let takesDefault := useDefault && !r.data.contains field.name
  { r with
    data := if takesDefault then r.data.insert field.name field.type.defaultValue else r.data
    failures := r.failures ++ [⟨field.name, fault⟩]
    failed := r.failed + 1
    defaulted := if takesDefault then r.defaulted + 1 else r.defaulted }

end Recalculated

/-- What a recalculation depends on besides the form. -/
structure RecalcRules where
  /-- How large an expression may be. -/
  limits : Limits := {}
  /-- The functions there are. -/
  registry : Registry := .builtin
  /-- The time. -/
  now : DateTime
  /-- Whether a field whose formula fails takes the default of its type if it has no value. -/
  defaultOnFailure : Bool := true

namespace RecalcRules

/-- The value of a formula. -/
def compute (rules : RecalcRules) (data : FormData) (text : String) : Except Fault Value :=
  let context : Context := { data, registry := rules.registry, now := rules.now }
  context.evaluateText rules.limits text

/-- Computes one field. -/
def step (rules : RecalcRules) (fields : List Field) (r : Recalculated) (name : String) :
    Recalculated :=
  match fields.reverse.find? fun f => f.name = name with
  | none => r
  | some field =>
    match field.formulaText? with
    | none => r
    | some text =>
      match rules.compute r.data text with
      | .ok v => r.succeed field v
      | .error fault => r.fail rules.defaultOnFailure field fault

/-- Computes the fields that the graph puts up for calculation. -/
def run (rules : RecalcRules) (fields : List Field) (graph : DependencyGraph)
    (changed : Option String) (data : FormData) : Recalculated :=
  let order := graph.calculationOrder changed
  order.foldl (rules.step fields) { data, candidates := order.length }

/-- Builds the graph of the form and recalculates it. -/
def recalculate (rules : RecalcRules) (fields : List Field) (changed : Option String)
    (data : FormData) : Except Fault Recalculated := do
  let graph ← DependencyGraph.ofFields rules.limits fields
  return rules.run fields graph changed data

end RecalcRules

end Formulary
