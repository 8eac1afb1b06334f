import Formulary.Dependency.Graph

/-!
# Searching a dependency graph

`DependencyGraph.reach` collects all fields that can be reached from some fields along one direction of
the edges. `DependencyGraph.checkAcyclic` looks for a field that depends on itself, directly or not, and
gives the way from that field back to it.

## Implementation notes

Both searches note fields as they come to them, so what bounds them is the number of fields not yet
noted. `DependencyGraph.unseen` counts these.
-/

namespace Formulary.DependencyGraph

/-- The number of fields that are not among `seen`. -/
def unseen (g : DependencyGraph) (seen : List String) : Nat :=
  (g.names.filter fun name => name ∉ seen).length

theorem unseen_cons_lt {g : DependencyGraph} {seen : List String} {name : String}
    (known : name ∈ g.names) (fresh : name ∉ seen) : g.unseen (name :: seen) < g.unseen seen := by
  have split : g.names.filter (fun x => x ∉ name :: seen) =
      (g.names.filter fun x => x ∉ seen).filter fun x => x ≠ name := by
    rw [List.filter_filter]
    exact List.filter_congr fun x _ => by simp
  rw [unseen, unseen, split, List.length_filter_lt_length_iff_exists]
  exact ⟨name, List.mem_filter.mpr ⟨known, by simpa⟩, by simp⟩

/-- The fields noted in `seen` and those that can be reached from the frontier by steps of `next`
without passing through a field in `seen`. -/
def reach (g : DependencyGraph) (next : String → List String) (seen : List String) :
    List String → List String
  | [] => seen
  | name :: frontier =>
    if _h : name ∈ g.names ∧ name ∉ seen then
      g.reach next (name :: seen) (next name ++ frontier)
    else g.reach next seen frontier
termination_by frontier => (g.unseen seen, frontier.length)
decreasing_by
  · exact Prod.Lex.left _ _ (unseen_cons_lt _h.1 _h.2)
  · exact Prod.Lex.right _ (by simp)

/-- The fields, other than `field`, that depend on it directly or not. -/
def affected (g : DependencyGraph) (field : String) : List String :=
  (g.reach g.dependents [field] (g.dependents field)).filter (· ≠ field)

/-- Whether there would be a cycle if `field` depended on `target` as well. -/
def wouldCreateCycle (g : DependencyGraph) (field target : String) : Bool :=
  field == target || (g.contains field && (g.reach g.precedents [] [target]).contains field)

/-- Follows the fields in a list, one after the other, from the innermost field of a path of
dependencies. `path` is that path, innermost first, and `done` are the fields from which no cycle can be
reached. Yields the fields that are done, or a cycle: a path from a field to itself. -/
def follow (g : DependencyGraph) (path done : List String) :
    List String → Except (List String) (List String)
  | [] => .ok done
  | name :: rest =>
    if name ∈ path then .error (name :: (path.takeWhile (· ≠ name)).reverse ++ [name])
    else if name ∈ done then g.follow path done rest
    else if _h : name ∈ g.names ∧ name ∉ path then
      match g.follow (name :: path) done (g.precedents name) with
      | .error cycle => .error cycle
      | .ok done => g.follow path (name :: done) rest
    else g.follow path done rest
termination_by list => (g.unseen path, list.length)
decreasing_by
  · exact Prod.Lex.right _ (by simp)
  · exact Prod.Lex.left _ _ (unseen_cons_lt _h.1 _h.2)
  · exact Prod.Lex.right _ (by simp)
  · exact Prod.Lex.right _ (by simp)

/-- Checks that no field depends on itself, following the fields in the order of their definition. -/
def checkAcyclic (g : DependencyGraph) : Except Fault Unit :=
  match g.follow [] [] g.names with
  | .ok _ => .ok ()
  | .error cycle => .error (.cycleDetected cycle)

end Formulary.DependencyGraph
