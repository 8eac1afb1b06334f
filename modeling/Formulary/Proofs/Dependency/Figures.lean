import Formulary.Proofs.Dependency.Ordering
import Mathlib.Data.Set.Card
import Mathlib.Order.Bounds.Basic

/-!
# The figures of a graph are exact

`DependencyGraph.stats` counts the pairs of a field and one that it refers to, measures the longest chain of
references (`IsReferenceChain`), and lists the fields that refer to none and those that none refers to. In the
graph of a form all of these are what they say (`DependencyGraph.stats_ofFields`).

The longest chain is found field by field, in the order of calculation. The length of the longest chain from a
field on is one more than the greatest of those from the fields that it depends on, if these are known
(`isGreatest_chainLength`), and in that order they are: what a field depends on comes before it. So a run along
the order measures each field once and for all (`measures_foldl`).
-/

namespace Formulary

/-- A chain of fields of which each refers to the next. -/
structure IsReferenceChain (limits : Limits) (fields : List Field) (chain : List String) : Prop where
  /-- There are fields on it only. -/
  known : ∀ name ∈ chain, ∃ f ∈ fields, f.name = name
  /-- Each refers to the next. -/
  steps : chain.IsChain (References limits fields)

/-- Who refers from a field on meets nothing but fields. -/
theorem known_of_isChain {limits : Limits} {fields : List Field} {name : String} {rest : List String}
    (h : (name :: rest).IsChain (References limits fields)) (hname : ∃ f ∈ fields, f.name = name) :
    ∀ other ∈ name :: rest, ∃ f ∈ fields, f.name = other := by
  induction rest generalizing name with
  | nil => simpa using hname
  | cons next rest ih =>
    obtain ⟨href, hrest⟩ := List.isChain_cons_cons.mp h
    exact List.forall_mem_cons.mpr ⟨hname, ih hrest href.exists_fields.2⟩

/-- The greatest of some values, of which the first is given, is one of them and none is greater. -/
theorem foldl_max_spec {α : Type} (value : α → Nat) (l : List α) (first : Nat) :
    (first ≤ l.foldl (fun greatest a => max greatest (value a)) first ∧
      ∀ a ∈ l, value a ≤ l.foldl (fun greatest a => max greatest (value a)) first) ∧
      (l.foldl (fun greatest a => max greatest (value a)) first = first ∨
        ∃ a ∈ l, value a = l.foldl (fun greatest a => max greatest (value a)) first) := by
  induction l generalizing first with
  | nil => simp
  | cons a rest ih =>
    obtain ⟨⟨hfirst, hrest⟩, hattained⟩ := ih (max first (value a))
    rw [List.foldl_cons]
    refine ⟨⟨(Nat.le_max_left _ _).trans hfirst, List.forall_mem_cons.mpr ⟨?_, hrest⟩⟩, ?_⟩
    · exact (Nat.le_max_right _ _).trans hfirst
    · rcases hattained with heq | ⟨b, hb, hvalue⟩
      · -- nothing in the rest is greater than both
        rcases Nat.le_total (value a) first with hle | hle
        · exact Or.inl (by rw [heq, Nat.max_eq_left hle])
        · exact Or.inr ⟨a, List.mem_cons_self, by rw [heq, Nat.max_eq_right hle]⟩
      · exact Or.inr ⟨b, List.mem_cons_of_mem _ hb, hvalue⟩

namespace DependencyGraph

variable {g : DependencyGraph}

/-! ### Chains from a field on -/

/-- The numbers of steps on the ways from a field along its precedents. -/
def chainLengthsFrom (g : DependencyGraph) (name : String) : Set Nat :=
  {n | ∃ rest : List String, (name :: rest).IsChain g.Precedes ∧ rest.length = n}

/-- **The longest chain from a field on**, by the longest from the fields that it depends on. -/
theorem isGreatest_chainLength {lengths : List (String × Nat)} {name : String}
    (h : ∀ p ∈ g.precedents name, ∃ n, lengths.lookup p = some n ∧ IsGreatest (g.chainLengthsFrom p) n) :
    IsGreatest (g.chainLengthsFrom name) (g.chainLength lengths name) := by
  obtain ⟨⟨-, hupper⟩, hattained⟩ :=
    foldl_max_spec (fun p => (lengths.lookup p).getD 0 + 1) (g.precedents name) 0
  -- the fold as the model writes it
  change (∀ p ∈ _, _ ≤ g.chainLength lengths name) at hupper
  change g.chainLength lengths name = 0 ∨ (∃ p ∈ _, _ = g.chainLength lengths name) at hattained
  constructor
  · rcases hattained with hzero | ⟨p, hp, hvalue⟩
    · exact ⟨[], List.isChain_singleton name, hzero.symm⟩
    · -- the longest chain from `p` on, with one step to `p` before it
      obtain ⟨n, hlookup, ⟨rest, hchain, hlength⟩, -⟩ := h p hp
      refine ⟨p :: rest, List.isChain_cons_cons.mpr ⟨hp, hchain⟩, ?_⟩
      rw [← hvalue, hlookup, List.length_cons, hlength]
      rfl
  · rintro _ ⟨rest, hchain, rfl⟩
    cases rest with
    | nil => exact Nat.zero_le _
    | cons p rest =>
      obtain ⟨hp, hchain⟩ := List.isChain_cons_cons.mp hchain
      obtain ⟨n, hlookup, -, hgreatest⟩ := h p hp
      -- a chain goes on with some precedent, from which none is longer than its measure
      have hrest : rest.length ≤ n := hgreatest ⟨rest, hchain, rfl⟩
      have hbound := hupper p hp
      rw [hlookup] at hbound
      exact (Nat.succ_le_succ hrest).trans hbound

/-! ### Along the order -/

/-- The fields that are done are those that are measured, and each measure is the length of the longest chain
from the field on. -/
structure Measures (g : DependencyGraph) (done : List String) (lengths : List (String × Nat)) : Prop where
  /-- The fields that are done have a measure, and no other has. -/
  covers : ∀ name, name ∈ done ↔ name ∈ lengths.map Prod.fst
  /-- Each measure is the length of the longest chain. -/
  greatest : ∀ entry ∈ lengths, IsGreatest (g.chainLengthsFrom entry.1) entry.2

namespace Measures

variable {done : List String} {lengths : List (String × Nat)}

theorem exists_lookup (h : g.Measures done lengths) {name : String} (hname : name ∈ done) :
    ∃ n, lengths.lookup name = some n ∧ IsGreatest (g.chainLengthsFrom name) n := by
  obtain ⟨entry, hentry, rfl⟩ := List.mem_map.mp ((h.covers name).mp hname)
  have hsome : (lengths.lookup entry.1).isSome := by
    rw [List.lookup_isSome_iff]
    exact ⟨entry, hentry, beq_self_eq_true _⟩
  obtain ⟨n, hlookup⟩ := Option.isSome_iff_exists.mp hsome
  -- whichever entry of the field is looked up, it is right
  obtain ⟨front, back, rfl, -⟩ := List.lookup_eq_some_iff.mp hlookup
  exact ⟨n, hlookup, h.greatest (entry.1, n) (List.mem_append_right _ List.mem_cons_self)⟩

/-- One more field is measured if those that it depends on have been. -/
theorem cons (h : g.Measures done lengths) {name : String} (hbefore : ∀ p ∈ g.precedents name, p ∈ done) :
    g.Measures (done ++ [name]) ((name, g.chainLength lengths name) :: lengths) where
  covers := by
    intro other
    rw [List.map_cons, List.mem_cons, List.mem_append, List.mem_singleton, h.covers, or_comm]
  greatest := by
    refine List.forall_mem_cons.mpr ⟨?_, h.greatest⟩
    exact isGreatest_chainLength fun p hp => h.exists_lookup (hbefore p hp)

end Measures

/-- A run along an order in which each field comes after those it depends on measures all of them. -/
theorem measures_foldl {order : List String}
    (hearlier : ∀ before name after, order = before ++ name :: after →
      ∀ p ∈ g.precedents name, p ∈ before)
    {done pending : List String} (horder : order = done ++ pending) {lengths : List (String × Nat)}
    (h : g.Measures done lengths) :
    g.Measures order
      (pending.foldl (fun lengths name => (name, g.chainLength lengths name) :: lengths) lengths) := by
  induction pending generalizing done lengths with
  | nil => rwa [horder, List.append_nil]
  | cons name pending ih =>
    refine ih ?_ (h.cons (hearlier done name pending horder))
    rw [horder, List.append_assoc, List.singleton_append]

/-! ### The graph of a form -/

section Built

variable {limits : Limits} {fields : List Field} (h : ofFields limits fields = .ok g)
include h

/-- Every field of a form is measured. -/
theorem measures_chainLengths : g.Measures g.topologicalOrder g.chainLengths := by
  have horders := orders_order h fun _ => true
  rw [List.filter_true] at horders
  refine measures_foldl ?_ (List.nil_append _).symm ⟨by simp, by simp⟩
  intro before name after horder p hp
  exact horders.earlier before name after horder p (precedents_subset_names h hp) hp

/-- The depth of the graph of a form is that of its longest chain of references. -/
theorem isGreatest_depth : IsGreatest
    {n | ∃ chain, IsReferenceChain limits fields chain ∧ chain.length - 1 = n} g.stats.depth := by
  obtain ⟨hcovers, hgreatest⟩ := measures_chainLengths h
  simp only [chainLengthsFrom, precedes_ofFields h] at hgreatest
  obtain ⟨⟨-, hupper⟩, hattained⟩ := foldl_max_spec (fun n => n) (g.chainLengths.map (·.2)) 0
  change (∀ n ∈ _, n ≤ g.stats.depth) at hupper
  change g.stats.depth = 0 ∨ (∃ n ∈ _, n = g.stats.depth) at hattained
  constructor
  · rcases hattained with hzero | ⟨n, hn, hdepth⟩
    · -- a depth of zero is that of the empty chain
      exact ⟨[], ⟨by simp, List.isChain_nil⟩, hzero.symm⟩
    · obtain ⟨⟨name, _⟩, hentry, rfl⟩ := List.mem_map.mp hn
      obtain ⟨⟨rest, hsteps, hlength⟩, -⟩ := hgreatest _ hentry
      have hfield := (mem_topologicalOrder h).mp ((hcovers name).mpr (List.mem_map_of_mem hentry))
      exact ⟨name :: rest, ⟨known_of_isChain hsteps hfield, hsteps⟩, hlength.trans hdepth⟩
  · rintro _ ⟨chain, ⟨hknown, hsteps⟩, rfl⟩
    cases chain with
    | nil => exact Nat.zero_le _
    | cons name rest =>
      -- every field is measured, so a chain is no longer than the measure of its first field
      have hdone := (mem_topologicalOrder h).mpr (hknown name List.mem_cons_self)
      obtain ⟨⟨_, n⟩, hentry, rfl⟩ := List.mem_map.mp ((hcovers name).mp hdone)
      have hrest : rest.length ≤ n := (hgreatest _ hentry).2 ⟨rest, hsteps, rfl⟩
      exact hrest.trans (hupper n (List.mem_map_of_mem (f := Prod.snd) hentry))

/-- The dependencies counted are the pairs of a field and one that it refers to. -/
theorem encard_references :
    {pair : String × String | References limits fields pair.1 pair.2}.encard = g.stats.dependencies := by
  -- the pairs that the names and their precedents make up are listed once each
  let pairs : List (String × String) := g.names.flatMap fun a => (g.precedents a).map (a, ·)
  have hnodup : pairs.Nodup := by
    refine List.nodup_flatMap.mpr ⟨fun a _ => ?_, (ofFields_eq_ok h).2.1.imp ?_⟩
    · exact (nodup_precedents a).map fun _ _ heq => (Prod.mk.inj heq).2
    · rintro a b hne _ ha hb
      obtain ⟨_, -, rfl⟩ := List.mem_map.mp ha
      obtain ⟨_, -, heq⟩ := List.mem_map.mp hb
      exact hne (Prod.mk.inj heq).1.symm
  have hmem : {pair : String × String | References limits fields pair.1 pair.2} =
      (pairs.toFinset : Set (String × String)) := by
    ext ⟨a, b⟩
    simp only [pairs, Set.mem_ofPred_eq, List.coe_toFinset, List.mem_flatMap, List.mem_map, Prod.mk.injEq]
    constructor
    · intro href
      exact ⟨a, (mem_names_ofFields h).mpr href.exists_fields.1, b,
        (mem_precedents_ofFields h).mpr href, rfl, rfl⟩
    · rintro ⟨_, -, _, hprecedent, rfl, rfl⟩
      exact (mem_precedents_ofFields h).mp hprecedent
  have hlength : g.stats.dependencies = pairs.length := by
    simp only [stats, pairs, List.length_flatMap, List.length_map]
  rw [hmem, Set.encard_coe_eq_coe_finsetCard, List.toFinset_card_of_nodup hnodup, hlength]

/-- **The figures of the graph of a form are exact.** Its depth is the greatest number of references on a chain
of fields of which each refers to the next. Its dependencies are the pairs of a field and one that it refers to,
however many of its expressions do so. Its roots are the fields that refer to no field, and its leaves those that
no field refers to, both in the order of their definition. -/
theorem stats_ofFields :
    IsGreatest {n | ∃ chain, IsReferenceChain limits fields chain ∧ chain.length - 1 = n} g.stats.depth ∧
    {pair : String × String | References limits fields pair.1 pair.2}.encard = g.stats.dependencies ∧
    (g.stats.roots.Sublist (fields.map Field.name) ∧
      ∀ name, name ∈ g.stats.roots ↔
        (∃ f ∈ fields, f.name = name) ∧ ∀ other, ¬References limits fields name other) ∧
    (g.stats.leaves.Sublist (fields.map Field.name) ∧
      ∀ name, name ∈ g.stats.leaves ↔
        (∃ f ∈ fields, f.name = name) ∧ ∀ other, ¬References limits fields other name) := by
  have hnames : g.names = fields.map Field.name := (ofFields_eq_ok h).1
  refine ⟨isGreatest_depth h, encard_references h, ⟨?_, fun name => ?_⟩, ⟨?_, fun name => ?_⟩⟩
  · exact hnames ▸ List.filter_sublist
  · -- the names keep their order, and what is kept are those without precedents
    have hnone : (g.precedents name).isEmpty = true ↔ ∀ other, ¬References limits fields name other := by
      simp only [List.isEmpty_iff, List.eq_nil_iff_forall_not_mem, mem_precedents_ofFields h]
    rw [← mem_names_ofFields h, ← hnone]
    exact List.mem_filter
  · exact hnames ▸ List.filter_sublist
  · have hnone : (g.dependents name).isEmpty = true ↔ ∀ other, ¬References limits fields other name := by
      simp only [List.isEmpty_iff, List.eq_nil_iff_forall_not_mem, mem_dependents_iff_mem_precedents,
        mem_precedents_ofFields h]
    rw [← mem_names_ofFields h, ← hnone]
    exact List.mem_filter

end Built

/-- The total of the invoice refers to the price and to the quantity; the note has a formula that cannot be read. -/
theorem stats_invoice :
    ofFields {} invoice = .ok invoiceGraph ∧
      invoiceGraph.stats = ⟨4, 2, 2, 1, ["quantity", "price", "note"], ["total", "note"]⟩ ∧
      IsGreatest {n | ∃ chain, IsReferenceChain {} invoice chain ∧ chain.length - 1 = n} 1 ∧
      {pair : String × String | References {} invoice pair.1 pair.2}.encard = 2 ∧
      ∀ other, ¬References {} invoice other "total" := by
  have hstats : invoiceGraph.stats = ⟨4, 2, 2, 1, ["quantity", "price", "note"], ["total", "note"]⟩ := by
    decide +kernel
  obtain ⟨hdepth, hpairs, -, -, hleaves⟩ := stats_ofFields ofFields_invoice
  rw [hstats] at hdepth hpairs hleaves
  exact ⟨ofFields_invoice, hstats, hdepth, hpairs, ((hleaves "total").mp List.mem_cons_self).2⟩

end DependencyGraph

end Formulary
