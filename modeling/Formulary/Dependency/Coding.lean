import Formulary.Dependency.Order
import Formulary.Document.Basic

/-!
# Dependency graphs as documents

A graph is shown by its two orders, its edges, the expressions that it skips and its figures.
-/

namespace Formulary

/-- An edge as a document. -/
def Edge.toDocument (e : Edge) : Document :=
  .ofMembers
    [("field", .string e.field), ("depends_on", .string e.dependsOn), ("kind", .string e.role.name)]

/-- A skipped expression as a document. -/
def SkippedExpression.toDocument (s : SkippedExpression) : Document :=
  .ofMembers
    [("field", .string s.field), ("kind", .string s.role.name), ("error", .string s.fault.message)]

namespace DependencyGraph

/-- The figures of a graph as a document. -/
def Stats.toDocument (s : Stats) : Document :=
  .ofMembers
    [("total_fields", .ofNat s.fields), ("calculated_fields", .ofNat s.calculated),
      ("total_dependencies", .ofNat s.dependencies), ("max_depth", .ofNat s.depth),
      ("root_fields", .ofStrings s.roots), ("leaf_fields", .ofStrings s.leaves)]

/-- A graph as a document. -/
def toDocument (g : DependencyGraph) : Document :=
  .ofMembers
    [("order", .ofStrings g.topologicalOrder),
      ("calculation_order", .ofStrings (g.calculationOrder none)),
      ("edges", .array (g.edges.map Edge.toDocument)),
      ("skipped", .array (g.skipped.map SkippedExpression.toDocument)),
      ("stats", g.stats.toDocument)]

end DependencyGraph

end Formulary
