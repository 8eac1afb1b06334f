import Formulary.Dependency.Search

/-!
# Orders of calculation

`DependencyGraph.order` puts some fields of a graph into an order in which each comes after those of
them that it depends on. Where several can come next, the one that was defined first does, so the order
is the least of its kind.

The order is found by counting (`Sorting`): each field is counted down for every field that comes and that
it depends on, and can come itself when its count is down to zero.

## Implementation notes

Counting ends because every field that comes either leaves one ready field less or takes away from a
count. `Sorting.work` adds these up.
-/

namespace Formulary

/-- Fields that are being put into an order. -/
structure Sorting where
  /-- The fields, in the order of their definition, each with the number of those among them that it
  depends on directly and that have not come yet. -/
  counts : List (String × Int)
  /-- The fields that can come next. -/
  ready : List String
deriving DecidableEq, Repr

namespace Sorting

/-- Lowers the count of a field by one. A field that is not counted is left out. -/
def lower (field : String) : List (String × Int) → List (String × Int)
  | [] => []
  | (name, count) :: rest =>
    if name = field then (name, count - 1) :: rest else (name, count) :: lower field rest

/-- One of the fields that this field depends on has come. If it was the last one, the field can come
next. -/
def release (s : Sorting) (field : String) : Sorting :=
  let counts := lower field s.counts
  ⟨counts, if counts.lookup field = some 0 then field :: s.ready else s.ready⟩

/-- Of the fields that can come next, the one that was defined first. -/
def next? (s : Sorting) : Option String :=
  (s.counts.map Prod.fst).find? fun name => name ∈ s.ready

/-- Takes a field out of those that can come next. -/
def take (s : Sorting) (field : String) : Sorting := { s with ready := s.ready.erase field }

/-- How often the counts can be lowered while they are positive. -/
def sum : List (String × Int) → Nat
  | [] => 0
  | (_, count) :: rest => count.toNat + sum rest

/-- A bound on the number of fields that are still to come. -/
def work (s : Sorting) : Nat := sum s.counts + s.ready.length

theorem sum_lower_le (field : String) (counts : List (String × Int)) :
    sum (lower field counts) ≤ sum counts := by
  induction counts with
  | nil => exact Nat.le_refl _
  | cons entry rest ih =>
    obtain ⟨name, count⟩ := entry
    rw [lower]
    split
    · simp only [sum]
      omega
    · simp only [sum]
      omega

/-- A count that is lowered to zero was positive. -/
theorem sum_lower_lt {field : String} {counts : List (String × Int)}
    (h : (lower field counts).lookup field = some 0) : sum (lower field counts) < sum counts := by
  induction counts with
  | nil => contradiction
  | cons entry rest ih =>
    obtain ⟨name, count⟩ := entry
    rw [lower] at h ⊢
    split at h
    · next hname =>
      rw [if_pos hname]
      simp only [hname, List.lookup_cons, beq_self_eq_true, Option.some.injEq] at h
      simp only [sum]
      omega
    · next hname =>
      have hne : (field == name) = false := beq_eq_false_iff_ne.mpr (Ne.symm hname)
      rw [List.lookup_cons, hne] at h
      have hlt := ih h
      rw [if_neg hname]
      simp only [sum]
      omega

theorem work_release_le (s : Sorting) (field : String) : (s.release field).work ≤ s.work := by
  show sum (lower field s.counts) + (if (lower field s.counts).lookup field = some 0 then
    field :: s.ready else s.ready).length ≤ sum s.counts + s.ready.length
  split
  · next hzero =>
    -- one more field is ready, and a count has been lowered for it
    have hlt := sum_lower_lt hzero
    rw [List.length_cons]
    omega
  · have hle := sum_lower_le field s.counts
    omega

theorem work_foldl_release_le (fields : List String) (s : Sorting) :
    (fields.foldl release s).work ≤ s.work := by
  induction fields generalizing s with
  | nil => exact Nat.le_refl _
  | cons field rest ih => exact Nat.le_trans (ih _) (work_release_le s field)

theorem work_take_lt {s : Sorting} {field : String} (h : s.next? = some field) :
    (s.take field).work < s.work := by
  have hready : field ∈ s.ready := by simpa using List.find?_some h
  have hpos := List.length_pos_of_mem hready
  show sum s.counts + (s.ready.erase field).length < sum s.counts + s.ready.length
  rw [List.length_erase_of_mem hready]
  omega

end Sorting

namespace DependencyGraph

/-- The fields before the first one comes: those that depend on none of the others can. -/
def sorting (g : DependencyGraph) (fields : List String) : Sorting :=
  let counts := fields.map fun name =>
    (name, ((g.precedents name).countP fun p => p ∈ fields : Int))
  ⟨counts, (counts.filter fun entry => entry.2 = 0).map Prod.fst⟩

/-- A field comes, and the fields that depend on it wait for one less. -/
def place (g : DependencyGraph) (s : Sorting) (field : String) : Sorting :=
  (g.dependents field).foldl Sorting.release (s.take field)

/-- The order in which the fields come from here on. -/
def finish (g : DependencyGraph) (s : Sorting) : List String :=
  match _h : s.next? with
  | none => []
  | some field => field :: g.finish (g.place s field)
termination_by s.work
decreasing_by
  exact Nat.lt_of_le_of_lt (Sorting.work_foldl_release_le _ _) (Sorting.work_take_lt _h)

/-- Fields in an order in which each comes after those of them that it depends on. -/
def order (g : DependencyGraph) (fields : List String) : List String := g.finish (g.sorting fields)

/-- All fields, each after those it depends on. -/
def topologicalOrder (g : DependencyGraph) : List String := g.order g.names

/-- The fields that depend on a field, directly or not, each after those it depends on. -/
def affectedBy (g : DependencyGraph) (field : String) : List String :=
  g.order (g.names.filter fun name => name ∈ g.affected field)

/-- The fields to calculate, each after those it depends on: all that have a formula, or those of them
that a change of one field affects. -/
def calculationOrder (g : DependencyGraph) : Option String → List String
  | none => g.order (g.names.filter fun name => name ∈ g.calculated)
  | some field =>
    let affected := g.affected field
    g.order (g.names.filter fun name => name ∈ affected ∧ name ∈ g.calculated)

/-! ### Figures -/

/-- Figures about a graph. -/
structure Stats where
  /-- The number of fields. -/
  fields : Nat
  /-- The number of fields that have a formula. -/
  calculated : Nat
  /-- The number of pairs of a field and one that it depends on directly. -/
  dependencies : Nat
  /-- The number of edges on the longest chain of dependencies. -/
  depth : Nat
  /-- The fields that depend on no other. -/
  roots : List String
  /-- The fields that no other depends on. -/
  leaves : List String
deriving DecidableEq, Repr

/-- The length of the longest chain of dependencies from a field on, given those of the fields that it
depends on. -/
def chainLength (g : DependencyGraph) (lengths : List (String × Nat)) (field : String) : Nat :=
  (g.precedents field).foldl (fun longest p => max longest ((lengths.lookup p).getD 0 + 1)) 0

/-- The length of the longest chain of dependencies from each field on. -/
def chainLengths (g : DependencyGraph) : List (String × Nat) :=
  g.topologicalOrder.foldl (fun lengths field => (field, g.chainLength lengths field) :: lengths) []

/-- The figures of a graph. -/
def stats (g : DependencyGraph) : Stats where
  fields := g.names.length
  calculated := g.calculated.length
  dependencies := (g.names.flatMap g.precedents).length
  depth := (g.chainLengths.map (·.2)).foldl max 0
  roots := g.names.filter fun name => (g.precedents name).isEmpty
  leaves := g.names.filter fun name => (g.dependents name).isEmpty

end DependencyGraph

end Formulary
