import Formulary.Dependency.Order
import Formulary.Proofs.Dependency.Edges
import Mathlib.Data.List.Basic
import Mathlib.Data.List.Nodup

/-!
# Counting takes the first free field

`DependencyGraph.order` counts. What it comes to can be said without counts: from the fields that are
waiting, `DependencyGraph.takeFree` takes the first that depends on none of them, again and again, and
`order_eq_takeFree` says that this is the order.

The states that counting goes through are `Sorting.Reached`, one operation at a time: a field is taken, and
then the fields that depend on it are told so, one by one. What links a state to the fields still waiting
is `Sorting.Counts`, which each operation preserves (`Counts.take`, `Counts.release`):

* the count of a field is the number of waiting fields that it depends on, and one more as long as it has
  not been told of the field taken last;
* a field is ready if it is waiting and its count is zero;
* a field that has come depends on none that is waiting.

The first of these is why no count falls below zero: a field that is still to be told has a positive count
(`Reached.count_pos`).
-/

namespace Formulary

open DependencyGraph

namespace Sorting

variable {field name : String} {counts : List (String × Int)}

/-! ### Lowering a count -/

theorem map_fst_lower (field : String) (counts : List (String × Int)) :
    (lower field counts).map Prod.fst = counts.map Prod.fst := by
  induction counts with
  | nil => rfl
  | cons entry rest ih =>
    rw [lower]
    split
    · rfl
    · rw [List.map_cons, List.map_cons, ih]

theorem lookup_lower : (lower field counts).lookup name =
    if name = field then (counts.lookup name).map (· - 1) else counts.lookup name := by
  induction counts with
  | nil => simp [lower]
  | cons entry rest ih =>
    obtain ⟨other, count⟩ := entry
    rw [lower]
    -- only the first entry of the field is lowered, and only the first is looked up
    by_cases hother : other = field
    · rw [if_pos hother, List.lookup_cons, List.lookup_cons]
      by_cases hname : name = other
      · simp [hname, hother]
      · have hne : name ≠ field := hother ▸ hname
        rw [beq_eq_false_iff_ne.mpr hname, if_neg hne]
    · rw [if_neg hother, List.lookup_cons, List.lookup_cons, ih]
      by_cases hname : name = other
      · have hne : name ≠ field := hname ▸ hother
        rw [if_neg hne, if_neg hne]
      · rw [beq_eq_false_iff_ne.mpr hname]

/-- Only counted fields have a count. -/
theorem mem_of_lookup_eq_some {count : Int} (h : counts.lookup name = some count) :
    name ∈ counts.map Prod.fst := by
  by_contra hmem
  have hnone : counts.lookup name = none := by
    refine List.lookup_eq_none_iff.mpr fun entry hentry => ?_
    rw [bne_iff_ne]
    rintro rfl
    exact hmem (List.mem_map_of_mem hentry)
  rw [hnone] at h
  contradiction

/-! ### The states -/

/-- A state that is reached while fields are put into an order, with the fields that are still to be told
that one which they depend on has come. -/
inductive Reached (g : DependencyGraph) (fields : List String) : Sorting → List String → Prop where
  /-- The counts as they are before the first field comes. -/
  | start : Reached g fields (g.sorting fields) []
  /-- A field comes. -/
  | take {s : Sorting} {field : String} (h : Reached g fields s []) (hnext : s.next? = some field) :
    Reached g fields (s.take field) (g.dependents field)
  /-- A field that depends on it is told so. -/
  | release {s : Sorting} {name : String} {rest : List String}
    (h : Reached g fields s (name :: rest)) : Reached g fields (s.release name) rest

/-- How many fields a field waits for: those that it depends on directly and that are waiting, and one more
if it is still to be told of one that has come. -/
def remaining (g : DependencyGraph) (waiting pending : List String) (name : String) : Nat :=
  ((g.precedents name).countP fun p => p ∈ waiting) + if name ∈ pending then 1 else 0

/-- The state of a sorting while some of its fields are waiting and some are still to be told. -/
structure Counts (g : DependencyGraph) (fields waiting pending : List String) (s : Sorting) : Prop where
  /-- The fields stay what they are. -/
  names : s.counts.map Prod.fst = fields
  /-- Those that are waiting stay in their order. -/
  sublist : waiting.Sublist fields
  /-- Each field is counted down to what it waits for. -/
  count : ∀ name ∈ fields, s.counts.lookup name = some (remaining g waiting pending name : Int)
  /-- Ready are those that wait for nothing. -/
  mem_ready : ∀ name, name ∈ s.ready ↔ name ∈ waiting ∧ remaining g waiting pending name = 0
  /-- No field is ready twice. -/
  nodup_ready : s.ready.Nodup
  /-- A field that has come depends on none that is waiting. -/
  come : ∀ name ∈ fields, name ∉ waiting → ∀ p ∈ g.precedents name, p ∉ waiting
  /-- No field that is still to be told has come. -/
  pending_waiting : ∀ name ∈ pending, name ∈ fields → name ∈ waiting
  /-- No field is told twice. -/
  nodup_pending : pending.Nodup

variable {g : DependencyGraph} {fields waiting pending rest : List String} {s : Sorting}

/-- If a field comes, those that depend on it are the ones that wait for one less. -/
theorem countP_erase {l : List String} (hl : l.Nodup) (hwaiting : waiting.Nodup)
    (hfield : field ∈ waiting) : l.countP (fun p => p ∈ waiting) =
      l.countP (fun p => p ∈ waiting.erase field) + if field ∈ l then 1 else 0 := by
  induction l with
  | nil => rfl
  | cons p l ih =>
    obtain ⟨hp, hl⟩ := List.nodup_cons.mp hl
    rw [List.countP_cons, List.countP_cons, ih hl]
    -- the field itself is counted before it comes and not after; for all others nothing changes
    by_cases heq : p = field
    · subst heq
      have herased : p ∉ waiting.erase p := hwaiting.not_mem_erase
      simp [hfield, herased, hp]
    · have hsame : p ∈ waiting.erase field ↔ p ∈ waiting := List.mem_erase_of_ne heq
      have hother : field ∈ p :: l ↔ field ∈ l := by simp [Ne.symm heq]
      simp only [hsame, hother]
      omega

theorem remaining_take (hwaiting : waiting.Nodup) (hfield : field ∈ waiting) (name : String) :
    remaining g (waiting.erase field) (g.dependents field) name = remaining g waiting [] name := by
  rw [remaining, remaining, countP_erase (nodup_precedents name) hwaiting hfield]
  simp only [mem_dependents_iff_mem_precedents, List.not_mem_nil, if_false, Nat.add_zero]

namespace Counts

/-- What is counted are the fields. -/
theorem mem_fields (h : Counts g fields waiting pending s) {count : Int}
    (hcount : s.counts.lookup name = some count) : name ∈ fields :=
  h.names ▸ mem_of_lookup_eq_some hcount

theorem start (hnodup : fields.Nodup) : Counts g fields fields [] (g.sorting fields) := by
  -- no field has come yet, so no other has to be told
  have hremaining (name : String) : remaining g fields [] name =
      (g.precedents name).countP fun p => p ∈ fields := by
    rw [remaining, if_neg (List.not_mem_nil), Nat.add_zero]
  have hnames : (g.sorting fields).counts.map Prod.fst = fields := by
    show (fields.map fun name => (name, _)).map Prod.fst = fields
    rw [List.map_map]
    exact List.map_id fields
  refine ⟨hnames, List.Sublist.refl fields, ?_, ?_, ?_, ?_, ?_, List.nodup_nil⟩
  · intro name hname
    rw [hremaining]
    exact List.lookup_graph (fun name => ((g.precedents name).countP fun p => p ∈ fields : Int)) hname
  · intro name
    rw [hremaining]
    simp [sorting]
  · show (((g.sorting fields).counts.filter fun entry => entry.2 = 0).map Prod.fst).Nodup
    have hsublist := (List.filter_sublist (p := fun entry : String × Int => entry.2 = 0)
      (l := (g.sorting fields).counts)).map Prod.fst
    rw [hnames] at hsublist
    exact hsublist.nodup hnodup
  · intro name hname hcome
    exact absurd hname hcome
  · intro name hname
    exact absurd hname List.not_mem_nil

/-- A field that is ready is waiting and depends on none that is. -/
theorem of_next? (h : Counts g fields waiting [] s) (hnext : s.next? = some field) :
    field ∈ s.ready ∧ field ∈ waiting ∧ ∀ p ∈ g.precedents field, p ∉ waiting := by
  have hready : field ∈ s.ready := by simpa using List.find?_some hnext
  obtain ⟨hwaiting, hremaining⟩ := (h.mem_ready field).mp hready
  refine ⟨hready, hwaiting, fun p hp => ?_⟩
  -- a ready field waits for nothing, so none of its precedents is waiting
  rw [remaining, Nat.add_eq_zero_iff, List.countP_eq_zero] at hremaining
  simpa using hremaining.1 p hp

/-- **A field comes.** The counts are not touched: the fields that depend on it are still to be told. -/
theorem take (h : Counts g fields waiting [] s) (hnodup : fields.Nodup)
    (hnext : s.next? = some field) :
    Counts g fields (waiting.erase field) (g.dependents field) (s.take field) := by
  obtain ⟨hready, hfield, hfree⟩ := h.of_next? hnext
  have hwaiting : waiting.Nodup := h.sublist.nodup hnodup
  refine ⟨h.names, List.erase_sublist.trans h.sublist, ?_, ?_, h.nodup_ready.erase field, ?_, ?_,
    nodup_dependents field⟩
  · -- the field that comes leaves those that are waiting, and joins what the others are still to be told of
    intro name hname
    rw [remaining_take hwaiting hfield]
    exact h.count name hname
  · intro name
    show name ∈ s.ready.erase field ↔ _
    rw [remaining_take hwaiting hfield, h.nodup_ready.mem_erase_iff, hwaiting.mem_erase_iff,
      h.mem_ready, and_assoc]
  · intro name hname hcome p hp hpending
    have hp' : p ∈ waiting := List.mem_of_mem_erase hpending
    by_cases heq : name = field
    · -- the field that comes is free
      subst heq
      exact hfree p hp hp'
    · have hcome' : name ∉ waiting := fun hmem => hcome (hwaiting.mem_erase_iff.mpr ⟨heq, hmem⟩)
      exact h.come name hname hcome' p hp hp'
  · intro name hname hmem
    have hprecedent : field ∈ g.precedents name := mem_dependents_iff_mem_precedents.mp hname
    refine hwaiting.mem_erase_iff.mpr ⟨?_, ?_⟩
    · rintro rfl
      exact hfree name hprecedent hfield
    · -- a field that had come before would not depend on one that was waiting
      by_contra hcome
      exact h.come name hmem hcome field hprecedent hfield

/-- **No count that is lowered is zero.** -/
theorem count_pos (h : Counts g fields waiting (name :: rest) s) {count : Int}
    (hcount : s.counts.lookup name = some count) : 0 < count := by
  have hremaining := h.count name (h.mem_fields hcount)
  rw [hcount, remaining, if_pos List.mem_cons_self] at hremaining
  have heq := Option.some.inj hremaining
  omega

/-- **A field is told that one which it depends on has come.** -/
theorem release (h : Counts g fields waiting (name :: rest) s) :
    Counts g fields waiting rest (s.release name) := by
  obtain ⟨hfresh, hrest⟩ := List.nodup_cons.mp h.nodup_pending
  -- only the count of the field that is told changes, and it was one at least
  have hself : remaining g waiting (name :: rest) name = remaining g waiting rest name + 1 := by
    rw [remaining, remaining, if_pos List.mem_cons_self, if_neg hfresh]
  have hother {other : String} (hne : other ≠ name) :
      remaining g waiting (name :: rest) other = remaining g waiting rest other := by
    simp [remaining, hne]
  have hcount : ∀ other ∈ fields, (lower name s.counts).lookup other =
      some (remaining g waiting rest other : Int) := by
    intro other hmem
    rw [lookup_lower, h.count other hmem]
    by_cases hne : other = name
    · subst hne
      rw [if_pos rfl, hself, Option.map_some]
      congr 1
      omega
    · rw [if_neg hne, hother hne]
  have hnotready : name ∉ s.ready := by
    intro hready
    have hzero := ((h.mem_ready name).mp hready).2
    rw [hself] at hzero
    contradiction
  -- whether the field is ready now
  have hzero : (lower name s.counts).lookup name = some 0 ↔
      name ∈ fields ∧ remaining g waiting rest name = 0 := by
    constructor
    · intro hlookup
      have hmem : name ∈ fields := by
        rw [← h.names, ← map_fst_lower name]
        exact mem_of_lookup_eq_some hlookup
      rw [hcount name hmem, Option.some.injEq, Int.natCast_eq_zero] at hlookup
      exact ⟨hmem, hlookup⟩
    · rintro ⟨hmem, hremaining⟩
      rw [hcount name hmem, hremaining]
      rfl
  refine ⟨(map_fst_lower name s.counts).trans h.names, h.sublist, hcount, ?_, ?_, h.come, ?_, hrest⟩
  · intro other
    show other ∈ (if (lower name s.counts).lookup name = some 0 then name :: s.ready else s.ready) ↔ _
    by_cases hne : other = name
    · subst hne
      have hwaiting : other ∈ waiting ↔ other ∈ fields :=
        ⟨fun hmem => h.sublist.subset hmem, h.pending_waiting other List.mem_cons_self⟩
      rw [hwaiting, ← hzero]
      split
      · next hlookup => simp [hlookup]
      · next hlookup => simp [hlookup, hnotready]
    · rw [← hother hne, ← h.mem_ready other]
      split
      · rw [List.mem_cons, or_iff_right hne]
      · exact Iff.rfl
  · show (if (lower name s.counts).lookup name = some 0 then name :: s.ready else s.ready).Nodup
    split
    · exact List.nodup_cons.mpr ⟨hnotready, h.nodup_ready⟩
    · exact h.nodup_ready
  · intro other hmem
    exact h.pending_waiting other (List.mem_cons_of_mem _ hmem)

theorem foldl_release (h : Counts g fields waiting pending s) :
    Counts g fields waiting [] (pending.foldl Sorting.release s) := by
  induction pending generalizing s with
  | nil => exact h
  | cons name rest ih => exact ih h.release

end Counts

/-- Every state that is reached counts the fields that are still waiting. -/
theorem Reached.exists_counts (hnodup : fields.Nodup) (h : Reached g fields s pending) :
    ∃ waiting, Counts g fields waiting pending s := by
  induction h with
  | start => exact ⟨fields, .start hnodup⟩
  | take _ hnext ih =>
    obtain ⟨waiting, hcounts⟩ := ih
    exact ⟨_, hcounts.take hnodup hnext⟩
  | release _ ih =>
    obtain ⟨waiting, hcounts⟩ := ih
    exact ⟨waiting, hcounts.release⟩

/-- When a field is placed, the states on the way to the next one are reached. -/
theorem Reached.place {field : String} (h : Reached g fields s []) (hnext : s.next? = some field) :
    Reached g fields (g.place s field) [] := by
  -- the fields that depend on it are told one after the other
  have hrelease {pending : List String} {s : Sorting} (h : Reached g fields s pending) :
      Reached g fields (pending.foldl Sorting.release s) [] := by
    induction pending generalizing s with
    | nil => exact h
    | cons name rest ih => exact ih h.release
  exact hrelease (h.take hnext)

/-- **No count falls below zero**: it is positive whenever it is about to be lowered. -/
theorem Reached.count_pos (hnodup : fields.Nodup) (h : Reached g fields s (name :: rest)) {count : Int}
    (hcount : s.counts.lookup name = some count) : 0 < count := by
  obtain ⟨waiting, hcounts⟩ := h.exists_counts hnodup
  exact hcounts.count_pos hcount

end Sorting

namespace DependencyGraph

variable {g : DependencyGraph} {fields waiting : List String}

/-! ### The order without counts -/

/-- Whether a field depends directly on none of those in a list. -/
def isFree (g : DependencyGraph) (waiting : List String) (field : String) : Bool :=
  (g.precedents field).all fun p => p ∉ waiting

/-- Takes the first field that depends on no other one in the list, again and again. -/
def takeFree (g : DependencyGraph) (waiting : List String) : List String :=
  match _h : waiting.find? (g.isFree waiting) with
  | none => []
  | some field => field :: g.takeFree (waiting.erase field)
termination_by waiting.length
decreasing_by
  have member := List.mem_of_find?_eq_some _h
  have := List.length_pos_of_mem member
  rw [List.length_erase_of_mem member]
  omega

theorem takeFree_of_find?_none (h : waiting.find? (g.isFree waiting) = none) :
    g.takeFree waiting = [] := by
  rw [takeFree]
  split
  · rfl
  · next hfound => rw [h] at hfound; contradiction

theorem takeFree_of_find?_some {field : String}
    (h : waiting.find? (g.isFree waiting) = some field) :
    g.takeFree waiting = field :: g.takeFree (waiting.erase field) := by
  rw [takeFree]
  split
  · next hfound => rw [h] at hfound; contradiction
  · next other hfound =>
    obtain rfl : field = other := Option.some.inj (h.symm.trans hfound)
    rfl

/-- What is searched for in a list may as well be searched for in a part of it that has it. -/
theorem find?_eq_of_sublist {l : List String} {p q : String → Bool} (h : l.Sublist fields)
    (hnodup : fields.Nodup) (hp : ∀ name ∈ fields, p name = true ↔ name ∈ l ∧ q name = true) :
    fields.find? p = l.find? q := by
  induction h with
  | slnil => rfl
  | @cons l fields first h ih =>
    obtain ⟨hfirst, hnodup⟩ := List.nodup_cons.mp hnodup
    -- what is left out of the part does not have the property
    have hnot : ¬p first = true := by
      intro hfound
      exact hfirst (h.subset ((hp first List.mem_cons_self).mp hfound).1)
    rw [List.find?_cons_of_neg hnot]
    exact ih hnodup fun name hname => hp name (List.mem_cons_of_mem _ hname)
  | @cons_cons l fields first h ih =>
    obtain ⟨hfirst, hnodup⟩ := List.nodup_cons.mp hnodup
    have hsame : p first = q first := by
      rw [Bool.eq_iff_iff, hp first List.mem_cons_self]
      exact and_iff_right List.mem_cons_self
    rw [List.find?_cons, List.find?_cons, hsame, ih hnodup]
    intro name hname
    -- further on in the list the first of the part does not come again
    have hne : name ≠ first := ne_of_mem_of_not_mem hname hfirst
    rw [hp name (List.mem_cons_of_mem _ hname), List.mem_cons, or_iff_right hne]

/-- The next field by the counts is the first free one. -/
theorem next?_eq {s : Sorting} (h : s.Counts g fields waiting []) (hnodup : fields.Nodup) :
    s.next? = waiting.find? (g.isFree waiting) := by
  have hready (name : String) : name ∈ s.ready ↔ name ∈ waiting ∧ g.isFree waiting name = true := by
    rw [h.mem_ready, Sorting.remaining, if_neg List.not_mem_nil, Nat.add_zero, List.countP_eq_zero]
    simp [isFree]
  rw [Sorting.next?, h.names]
  refine find?_eq_of_sublist h.sublist hnodup fun name _ => ?_
  rw [decide_eq_true_eq]
  exact hready name

theorem counts_place {s : Sorting} {field : String} (h : s.Counts g fields waiting [])
    (hnodup : fields.Nodup) (hnext : s.next? = some field) :
    (g.place s field).Counts g fields (waiting.erase field) [] :=
  (h.take hnodup hnext).foldl_release

theorem finish_eq_takeFree {s : Sorting} (h : s.Counts g fields waiting [])
    (hnodup : fields.Nodup) : g.finish s = g.takeFree waiting := by
  -- along the way of the free fields; the counts say at each step that the same field is next
  induction waiting using takeFree.induct g generalizing s with
  | case1 waiting hnone =>
    rw [takeFree_of_find?_none hnone, finish]
    split
    · rfl
    · next field hnext =>
      rw [next?_eq h hnodup, hnone] at hnext
      contradiction
  | case2 waiting field hfield ih =>
    rw [takeFree_of_find?_some hfield, finish]
    split
    · next hnext =>
      rw [next?_eq h hnodup, hfield] at hnext
      contradiction
    · next other hnext =>
      obtain rfl : field = other := by
        rw [next?_eq h hnodup, hfield] at hnext
        exact Option.some.inj hnext
      rw [ih (counts_place h hnodup hnext)]

/-- **The order takes the first free field**, again and again. -/
theorem order_eq_takeFree (hnodup : fields.Nodup) : g.order fields = g.takeFree fields :=
  finish_eq_takeFree (.start hnodup) hnodup

theorem order_of_find?_none (hnodup : waiting.Nodup) (h : waiting.find? (g.isFree waiting) = none) :
    g.order waiting = [] := by
  rw [order_eq_takeFree hnodup, takeFree_of_find?_none h]

theorem order_of_find?_some (hnodup : waiting.Nodup) {field : String}
    (h : waiting.find? (g.isFree waiting) = some field) :
    g.order waiting = field :: g.order (waiting.erase field) := by
  rw [order_eq_takeFree hnodup, order_eq_takeFree (hnodup.erase field), takeFree_of_find?_some h]

end DependencyGraph

end Formulary
