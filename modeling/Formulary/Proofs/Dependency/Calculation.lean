import Formulary.Proofs.Dependency.Acceptance
import Formulary.Proofs.Dependency.Counting

/-!
# What is calculated, and in which order

`DependencyGraph.order` puts fields into an order in which none depends on itself or on a later one
(`order_pairwise`), in any graph; in a graph without cycles it leaves out none of them (`order_perm`). The
order is followed as it takes one free field after the other (`takeFree`).

`DependencyGraph.affected` is closed: what depends on the field that changed, or on an affected field, is
affected itself (`mem_affected_of_mem_precedents`). In the graph of a form, what a change affects is what
depends on the field that changed, directly or not (`mem_affected_iff`).

Both together tell which fields are calculated when everything is, and when one field has changed
(`mem_calculationOrder_iff`).
-/

namespace Formulary.DependencyGraph

variable {g : DependencyGraph}

/-! ### The order -/

/-- The order holds nothing but what was waiting. -/
theorem mem_of_mem_order {waiting : List String} (hnodup : waiting.Nodup) {name : String}
    (h : name ∈ g.order waiting) : name ∈ waiting := by
  induction waiting using takeFree.induct g with
  | case1 waiting hnone =>
    rw [order_of_find?_none hnodup hnone] at h
    simp at h
  | case2 waiting field hfield ih =>
    rw [order_of_find?_some hnodup hfield] at h
    rcases List.mem_cons.mp h with rfl | h
    · exact List.mem_of_find?_eq_some hfield
    · exact List.mem_of_mem_erase (ih (hnodup.erase field) h)

theorem nodup_order {waiting : List String} (h : waiting.Nodup) : (g.order waiting).Nodup := by
  induction waiting using takeFree.induct g with
  | case1 waiting hnone => rw [order_of_find?_none h hnone]; exact List.nodup_nil
  | case2 waiting field hfield ih =>
    rw [order_of_find?_some h hfield]
    refine List.nodup_cons.mpr ⟨fun hmem => ?_, ih (h.erase field)⟩
    exact h.not_mem_erase (mem_of_mem_order (h.erase field) hmem)

/-- **No field depends on a later one.** -/
theorem order_pairwise {waiting : List String} (hnodup : waiting.Nodup) :
    (g.order waiting).Pairwise fun a b => b ∉ g.precedents a := by
  induction waiting using takeFree.induct g with
  | case1 waiting hnone => rw [order_of_find?_none hnodup hnone]; exact List.Pairwise.nil
  | case2 waiting field hfield ih =>
    rw [order_of_find?_some hnodup hfield]
    refine List.pairwise_cons.mpr ⟨fun later hlater hprecedent => ?_, ih (hnodup.erase field)⟩
    -- `field` was free when it was taken, and `later` was still waiting then
    have hfree : ∀ p ∈ g.precedents field, p ∉ waiting := by
      simpa [isFree] using List.find?_some hfield
    have hwaiting := mem_of_mem_order (hnodup.erase field) hlater
    exact hfree later hprecedent (List.mem_of_mem_erase hwaiting)

/-- **No field is left out**, as long as those that wait are grounded. -/
theorem order_perm {done : List String} (hgrounded : g.Grounded done) {waiting : List String}
    (hnodup : waiting.Nodup) (h : ∀ name ∈ waiting, name ∈ done) :
    (g.order waiting).Perm waiting := by
  induction waiting using takeFree.induct g with
  | case1 waiting hnone =>
    rw [order_of_find?_none hnodup hnone]
    cases waiting with
    | nil => exact List.Perm.nil
    | cons first rest =>
      -- among grounded fields one is free, so the order would go on
      have hsome : ∃ name ∈ first :: rest, name ∈ done :=
        ⟨first, List.mem_cons_self, h first List.mem_cons_self⟩
      obtain ⟨name, hname, hfree⟩ := hgrounded.exists_free hsome
      have hnot := List.find?_eq_none.mp hnone name hname
      exact absurd (by simpa [isFree] using hfree) hnot
  | case2 waiting field hfield ih =>
    rw [order_of_find?_some hnodup hfield]
    have hrest := ih (hnodup.erase field) fun name hname => h name (List.mem_of_mem_erase hname)
    exact (hrest.cons field).trans (List.perm_cons_erase (List.mem_of_find?_eq_some hfield)).symm

/-! ### What a change affects -/

/-- What can be reached contains what was noted, and is closed under steps between fields if what was
noted leads nowhere but into itself and the frontier. -/
theorem reach_closed {next : String → List String} {seen frontier : List String}
    (h : ∀ a ∈ seen, ∀ b ∈ next a, b ∈ g.names → b ∈ seen ∨ b ∈ frontier) :
    (∀ a ∈ seen, a ∈ g.reach next seen frontier) ∧
      ∀ a ∈ g.reach next seen frontier, ∀ b ∈ next a, b ∈ g.names →
        b ∈ g.reach next seen frontier := by
  -- by the steps of the search, with what is noted and the frontier general
  induction seen, frontier using reach.induct g next with
  | case1 seen =>
    rw [reach]
    exact ⟨fun _ hmem => hmem, fun a ha b hb hname => (h a ha b hb hname).resolve_right (by simp)⟩
  | case2 seen name frontier hnew ih =>
    rw [reach, dif_pos hnew]
    -- `name` is noted now, and what it leads to has come to the frontier
    have hnext : ∀ a ∈ name :: seen, ∀ b ∈ next a, b ∈ g.names →
        b ∈ name :: seen ∨ b ∈ next name ++ frontier := by
      intro a ha b hb hname
      rcases List.mem_cons.mp ha with rfl | ha
      · exact Or.inr (List.mem_append_left _ hb)
      · rcases h a ha b hb hname with hseen | hfrontier
        · exact Or.inl (List.mem_cons_of_mem _ hseen)
        · rcases List.mem_cons.mp hfrontier with rfl | hfrontier
          · exact Or.inl List.mem_cons_self
          · exact Or.inr (List.mem_append_right _ hfrontier)
    obtain ⟨hseen, hclosed⟩ := ih hnext
    exact ⟨fun a ha => hseen a (List.mem_cons_of_mem _ ha), hclosed⟩
  | case3 seen name frontier hskip ih =>
    -- `name` was noted before, or is no field
    rw [reach, dif_neg hskip]
    refine ih ?_
    intro a ha b hb hname
    rcases h a ha b hb hname with hseen | hfrontier
    · exact Or.inl hseen
    · rcases List.mem_cons.mp hfrontier with rfl | hfrontier
      · exact Or.inl (Classical.not_not.mp fun hseen => hskip ⟨hname, hseen⟩)
      · exact Or.inr hfrontier

/-- What is reached has been noted before, or lies on a way from the frontier. -/
theorem reach_sound {next : String → List String} {seen frontier : List String} {a : String}
    (h : a ∈ g.reach next seen frontier) :
    a ∈ seen ∨ ∃ b ∈ frontier, Relation.ReflTransGen (fun x y => y ∈ next x) b a := by
  induction seen, frontier using reach.induct g next with
  | case1 seen =>
    rw [reach] at h
    exact Or.inl h
  | case2 seen name frontier hnew ih =>
    rw [reach, dif_pos hnew] at h
    rcases ih h with hseen | ⟨b, hb, hway⟩
    · -- what has been noted by now was noted before, or is the field noted last
      rcases List.mem_cons.mp hseen with rfl | hseen
      · exact Or.inr ⟨a, List.mem_cons_self, .refl⟩
      · exact Or.inl hseen
    · -- the way begins behind `name`, or elsewhere on the frontier
      rcases List.mem_append.mp hb with hb | hb
      · exact Or.inr ⟨name, List.mem_cons_self, hway.head hb⟩
      · exact Or.inr ⟨b, List.mem_cons_of_mem _ hb, hway⟩
  | case3 seen name frontier hskip ih =>
    rw [reach, dif_neg hskip] at h
    rcases ih h with hseen | ⟨b, hb, hway⟩
    · exact Or.inl hseen
    · exact Or.inr ⟨b, List.mem_cons_of_mem _ hb, hway⟩

/-- **What depends on the changed field or on an affected one is affected.** -/
theorem mem_affected_of_mem_precedents {field a b : String} (ha : a = field ∨ a ∈ g.affected field)
    (hab : a ∈ g.precedents b) (hname : b ∈ g.names) (hne : b ≠ field) : b ∈ g.affected field := by
  have hstart : ∀ x ∈ [field], ∀ y ∈ g.dependents x, y ∈ g.names →
      y ∈ [field] ∨ y ∈ g.dependents field := by
    intro x hx y hy _
    obtain rfl := List.mem_singleton.mp hx
    exact Or.inr hy
  obtain ⟨hseen, hclosed⟩ := reach_closed hstart
  have hreached : a ∈ g.reach g.dependents [field] (g.dependents field) := by
    rcases ha with rfl | ha
    · exact hseen a (List.mem_singleton_self a)
    · exact List.mem_of_mem_filter ha
  have hstep := hclosed a hreached b (mem_dependents_iff_mem_precedents.mpr hab) hname
  exact List.mem_filter.mpr ⟨hstep, by simpa using hne⟩

section Built

variable {limits : Limits} {fields : List Field} (h : ofFields limits fields = .ok g)
include h

/-- **A change affects what depends on the field that changed**, directly or not. -/
theorem mem_affected_iff {field name : String} :
    name ∈ g.affected field ↔ DependsOn limits fields name field := by
  constructor
  · intro haffected
    -- what the search finds is on a way from the field, and that way goes back along references
    obtain ⟨hreached, hne⟩ := List.mem_filter.mp haffected
    have hway := (reach_sound hreached).resolve_left (by simpa using hne)
    obtain ⟨b, hb, hway⟩ := hway
    -- the search goes against the direction of the references
    have hstep : (fun x y => y ∈ g.dependents x) ≤ Function.swap (References limits fields) :=
      fun x y hxy => ((depicts_ofFields h).mem_dependents y x).mp hxy
    have hback : Relation.ReflTransGen (References limits fields) name b :=
      Relation.reflTransGen_swap.mp (Relation.ReflTransGen.mono hstep b name hway)
    exact Relation.TransGen.tail' hback (((depicts_ofFields h).mem_dependents b field).mp hb)
  · intro hdepends
    -- no field on the way depends on itself, so none of them is the field that changed
    have hne {a : String} (ha : DependsOn limits fields a field) : a ≠ field := by
      rintro rfl
      exact not_dependsOn_self h a ha
    have hstep {a b : String} (hab : References limits fields a b) (ha : a ≠ field)
        (hb : b = field ∨ b ∈ g.affected field) : a ∈ g.affected field :=
      mem_affected_of_mem_precedents hb ((mem_precedents_ofFields h).mpr hab)
        ((mem_names_ofFields h).mpr hab.exists_fields.1) ha
    induction hdepends using Relation.TransGen.head_induction_on with
    | single hab => exact hstep hab (hne (.single hab)) (Or.inl rfl)
    | head hab hway ih => exact hstep hab (hne (.head hab hway)) (Or.inr ih)

/-! ### The fields to calculate -/

/-- In the graph of a form nothing is left out of an order of fields. -/
theorem order_filter_perm (keep : String → Bool) :
    (g.order (g.names.filter keep)).Perm (g.names.filter keep) := by
  obtain ⟨-, hnodup, -, -, hacyclic⟩ := ofFields_eq_ok h
  obtain ⟨done, hgrounded, hall⟩ :=
    exists_grounded (fun a b hb => precedents_subset_names h hb) hacyclic
  refine order_perm hgrounded (hnodup.filter keep) fun name hname => ?_
  exact hall name (List.mem_of_mem_filter hname)

theorem mem_calculationOrder_none {name : String} :
    name ∈ g.calculationOrder none ↔ name ∈ g.names ∧ name ∈ g.calculated := by
  have hperm : (g.calculationOrder none).Perm (g.names.filter fun name => name ∈ g.calculated) :=
    order_filter_perm h _
  rw [hperm.mem_iff, List.mem_filter, decide_eq_true_eq]

theorem mem_calculationOrder_some {field name : String} :
    name ∈ g.calculationOrder (some field) ↔
      name ∈ g.names ∧ name ∈ g.affected field ∧ name ∈ g.calculated := by
  have hperm : (g.calculationOrder (some field)).Perm
      (g.names.filter fun name => name ∈ g.affected field ∧ name ∈ g.calculated) :=
    order_filter_perm h _
  rw [hperm.mem_iff, List.mem_filter, decide_eq_true_eq]

/-- **The fields to calculate** are those with a formula; if one field has changed, those of them that
depend on it. -/
theorem mem_calculationOrder_iff {changed : Option String} {name : String} :
    name ∈ g.calculationOrder changed ↔ (∃ f ∈ fields, f.isCalculated = true ∧ f.name = name) ∧
      ∀ field ∈ changed, DependsOn limits fields name field := by
  rw [← mem_calculated_ofFields h]
  -- a field with a formula is one of the fields, so the order leaves none out
  have hfield (hcalculated : name ∈ g.calculated) : name ∈ g.names := by
    obtain ⟨f, hf, -, hname⟩ := (mem_calculated_ofFields h).mp hcalculated
    exact (mem_names_ofFields h).mpr ⟨f, hf, hname⟩
  cases changed with
  | none =>
    rw [mem_calculationOrder_none h]
    exact ⟨fun ⟨_, hcalculated⟩ => ⟨hcalculated, by simp⟩,
      fun ⟨hcalculated, _⟩ => ⟨hfield hcalculated, hcalculated⟩⟩
  | some field =>
    rw [mem_calculationOrder_some h, mem_affected_iff h]
    exact ⟨fun ⟨_, hdepends, hcalculated⟩ => ⟨hcalculated, by simpa using hdepends⟩,
      fun ⟨hcalculated, hdepends⟩ => ⟨hfield hcalculated, hdepends field rfl, hcalculated⟩⟩

theorem nodup_calculationOrder (changed : Option String) : (g.calculationOrder changed).Nodup := by
  have hnodup := (ofFields_eq_ok h).2.1
  cases changed with
  | none => exact nodup_order (hnodup.filter _)
  | some field => exact nodup_order (hnodup.filter _)

end Built

end Formulary.DependencyGraph
