import Formulary.Proofs.Dependency.Grounding
import Formulary.Proofs.Dependency.References
import Mathlib.Data.List.Nodup

/-!
# The search for a cycle

`DependencyGraph.checkAcyclic` passes a graph exactly if no field in it depends on itself, and a way that
it reports is one that the graph has:

* a grounded list has no way from a field in it back to that field (`Grounded.not_transGen_self`), so a
  graph that passes has no cycle (`not_transGen_of_checkAcyclic`);
* the path that the search keeps is a chain of precedents, innermost first, and the fields that it is
  about to follow are precedents of the innermost one. A field that it meets again on the path therefore
  closes a cycle (`isCycle_of_mem_path`), and no error comes from anywhere else (`isCycle_of_follow`).
-/

namespace Formulary.DependencyGraph

variable {g : DependencyGraph}

/-- A field depends directly on another one. -/
def Precedes (g : DependencyGraph) (a b : String) : Prop := b ∈ g.precedents a

/-! ### No cycle in a grounded list -/

/-- What the fields of a grounded list depend on is in the list. -/
theorem Grounded.mem_of_precedes {done : List String} (hgrounded : g.Grounded done) {a b : String}
    (ha : a ∈ done) (hab : g.Precedes a b) : b ∈ done := by
  induction done with
  | nil => simp at ha
  | cons top earlier ih =>
    obtain ⟨-, hbelow, hearlier⟩ := hgrounded
    rcases List.mem_cons.mp ha with rfl | ha
    · exact List.mem_cons_of_mem _ (hbelow b hab)
    · exact List.mem_cons_of_mem _ (ih hearlier ha)

theorem Grounded.mem_of_reflTransGen {done : List String} (hgrounded : g.Grounded done) {a b : String}
    (hab : Relation.ReflTransGen g.Precedes a b) (ha : a ∈ done) : b ∈ done := by
  induction hab with
  | refl => exact ha
  | tail _ hstep ih => exact hgrounded.mem_of_precedes ih hstep

theorem Grounded.not_transGen_self {done : List String} (hgrounded : g.Grounded done) {a : String}
    (ha : a ∈ done) : ¬Relation.TransGen g.Precedes a a := by
  induction done with
  | nil => simp at ha
  | cons top earlier ih =>
    obtain ⟨hfresh, hbelow, hearlier⟩ := hgrounded
    rcases List.mem_cons.mp ha with rfl | ha
    · -- a way out of the top field leads down at once, and never up again
      intro hcycle
      obtain ⟨next, hstep, hback⟩ := Relation.TransGen.head'_iff.mp hcycle
      exact hfresh (hearlier.mem_of_reflTransGen hback (hbelow next hstep))
    · exact ih hearlier ha

/-- **A graph that passes the check has no cycle.** -/
theorem not_transGen_of_checkAcyclic (hclosed : ∀ a, ∀ b ∈ g.precedents a, b ∈ g.names)
    (h : g.checkAcyclic = .ok ()) (a : String) : ¬Relation.TransGen g.Precedes a a := by
  obtain ⟨done, hgrounded, hall⟩ := exists_grounded hclosed h
  intro hcycle
  -- `a` is what the last step of the way leads to, so it is a field
  obtain ⟨before, -, hstep⟩ := Relation.TransGen.tail'_iff.mp hcycle
  exact hgrounded.not_transGen_self (hall a (hclosed before a hstep)) hcycle

/-! ### What is reported is a cycle -/

/-- A path that the search keeps: each field, except for the outermost, is a precedent of the next one,
and so are those that the innermost leads to. -/
structure OnPath (g : DependencyGraph) (path list : List String) : Prop where
  /-- Each field is a precedent of the one further out. -/
  chain : path.IsChain fun inner outer => g.Precedes outer inner
  /-- What is to be followed are precedents of the innermost field. -/
  next : ∀ inner ∈ path.head?, ∀ name ∈ list, g.Precedes inner name
  /-- No field is on the path twice. -/
  nodup : path.Nodup

theorem OnPath.rest {path rest : List String} {name : String} (h : g.OnPath path (name :: rest)) :
    g.OnPath path rest :=
  ⟨h.chain, fun inner hinner other hother => h.next inner hinner other (List.mem_cons_of_mem _ hother),
    h.nodup⟩

/-- The path grows by the field that is followed next. -/
theorem OnPath.cons {path rest : List String} {name : String} (h : g.OnPath path (name :: rest))
    (hnew : name ∉ path) : g.OnPath (name :: path) (g.precedents name) := by
  refine ⟨List.isChain_cons.mpr ⟨?_, h.chain⟩, ?_, List.nodup_cons.mpr ⟨hnew, h.nodup⟩⟩
  · intro inner hinner
    exact h.next inner hinner name List.mem_cons_self
  · intro inner hinner other hother
    obtain rfl : name = inner := by simpa using hinner
    exact hother

/-- A field met again on the path closes a cycle: it leads, over the fields further in, to itself. -/
theorem isCycle_of_mem_path {path rest : List String} {name : String}
    (h : g.OnPath path (name :: rest)) (hmem : name ∈ path) :
    IsCycle g.Precedes (name :: (path.takeWhile (· ≠ name)).reverse ++ [name]) := by
  obtain ⟨inner, outer, rfl, hfresh⟩ := List.eq_append_cons_of_mem hmem
  have hinner : (inner ++ name :: outer).takeWhile (· ≠ name) = inner := by
    rw [List.takeWhile_append_of_pos]
    · simp
    · intro other hother
      simpa using ne_of_mem_of_not_mem hother hfresh
  rw [hinner]
  -- the way inwards on the path is the reverse of the chain
  have hreverse : name :: inner.reverse ++ [name] = (name :: (inner ++ [name])).reverse := by simp
  have hpart : (inner ++ [name]).IsChain fun inner outer => g.Precedes outer inner :=
    h.chain.prefix ⟨outer, by simp⟩
  have hsteps : (name :: inner.reverse ++ [name]).IsChain g.Precedes := by
    rw [hreverse, List.isChain_reverse, List.isChain_cons]
    refine ⟨fun innermost hinnermost => h.next innermost ?_ name List.mem_cons_self, hpart⟩
    cases inner <;> exact hinnermost
  -- the fields in between are on the path once each, and this one is not among them
  refine ⟨by simp, by rw [List.getLast?_concat]; rfl, ?_, hsteps⟩
  rw [List.dropLast_concat, List.nodup_cons, List.nodup_reverse, List.mem_reverse]
  exact ⟨hfresh, (List.nodup_append.mp h.nodup).1⟩

/-- **A way that the search reports is a cycle.** -/
theorem isCycle_of_follow {path done list cycle : List String}
    (h : g.follow path done list = .error cycle) (hpath : g.OnPath path list) :
    IsCycle g.Precedes cycle := by
  -- by the steps of the search: the path grows where it goes deeper, and is what it was where it goes on
  induction path, done, list using follow.induct g with
  | case1 path done =>
    rw [follow] at h
    contradiction
  | case2 path done name rest hmem =>
    rw [follow, if_pos hmem] at h
    obtain rfl := Except.error.inj h
    exact isCycle_of_mem_path hpath hmem
  | case3 path done name rest hmem hdone ih =>
    rw [follow, if_neg hmem, if_pos hdone] at h
    exact ih h hpath.rest
  -- the fault was found further in
  | case4 path done name rest hmem hdone hknown found hfound ih =>
    rw [follow, if_neg hmem, if_neg hdone, dif_pos hknown, hfound] at h
    obtain rfl := Except.error.inj h
    exact ih hfound (hpath.cons hmem)
  | case5 path done name rest hmem hdone hknown done₁ hdone₁ _ ih =>
    rw [follow, if_neg hmem, if_neg hdone, dif_pos hknown, hdone₁] at h
    exact ih h hpath.rest
  | case6 path done name rest hmem hdone hunknown ih =>
    rw [follow, if_neg hmem, if_neg hdone, dif_neg hunknown] at h
    exact ih h hpath.rest

/-- A graph that does not pass the check is refused with a cycle. -/
theorem isCycle_of_checkAcyclic {fault : Fault} (h : g.checkAcyclic = .error fault) :
    ∃ path, fault = .cycleDetected path ∧ IsCycle g.Precedes path := by
  rw [checkAcyclic] at h
  split at h
  · contradiction
  · next cycle hcycle =>
    obtain rfl := Except.error.inj h
    exact ⟨cycle, rfl, isCycle_of_follow hcycle ⟨List.isChain_nil, by simp, List.nodup_nil⟩⟩

end Formulary.DependencyGraph
