import Formulary.Fault
import Formulary.Field.Basic

/-!
# Dependency graphs

A field depends on another if one of its expressions names it. A `DependencyGraph` holds the fields of
a form in the order of their definition, and an edge for each field, role and field named. Names that
are no fields come from outside and have no edge.

`DependencyGraph.precedents` and `DependencyGraph.dependents` are the two directions of the edges, each
neighbour once and in the order in which the edges were found.
-/

namespace Formulary

/-- A field with a field that one of its expressions names. -/
structure Edge where
  /-- The field whose expression it is. -/
  field : String
  /-- The field named. -/
  dependsOn : String
  /-- The role of the expression. -/
  role : Role
deriving DecidableEq, Repr

/-- An expression that cannot be read and has no edges. -/
structure SkippedExpression where
  /-- The field whose expression it is. -/
  field : String
  /-- The role of the expression. -/
  role : Role
  /-- Why it cannot be read. -/
  fault : Fault
deriving DecidableEq, Repr

/-- The fields of a form with what they depend on. -/
structure DependencyGraph where
  /-- The fields, in the order of their definition. -/
  names : List String
  /-- The fields that have a formula, in the same order. -/
  calculated : List String
  /-- The edges, in the order in which they were found. -/
  edges : List Edge
  /-- The expressions without edges, in the order in which they were found. -/
  skipped : List SkippedExpression
deriving DecidableEq, Repr

namespace DependencyGraph

/-- The graph without fields. -/
def empty : DependencyGraph := ⟨[], [], [], []⟩

/-- Whether there is a field of that name. -/
def contains (g : DependencyGraph) (field : String) : Bool := g.names.contains field

/-- The fields that a field depends on directly. -/
def precedents (g : DependencyGraph) (field : String) : List String :=
  ((g.edges.filter fun e => e.field = field).map Edge.dependsOn).eraseDups

/-- The fields that depend on a field directly. -/
def dependents (g : DependencyGraph) (field : String) : List String :=
  ((g.edges.filter fun e => e.dependsOn = field).map Edge.field).eraseDups

end DependencyGraph

end Formulary
