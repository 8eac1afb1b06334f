import Formulary.Proofs.Recalculation.Consistency

/-!
# Recalculating two forms that are partly the same

Two forms are **alike within** some names if they have the same fields of these names, and no field of
such a name refers to one outside (`AlikeWithin`). Recalculating both then cannot be told apart within
these names (`RecalcRules.same_run_of_alikeWithin`): whatever the forms do elsewhere, and in whatever order
each of them is calculated.

The induction is along the order of one of the two forms. When it comes to a name, everything that the
formula of that name reads is settled, and is the same in both forms (`get?_eq_of_settled`).
-/

namespace Formulary

/-- Two forms with the same names have the same fields of some names, and these refer to nothing outside.
Names that are no fields are among them. -/
structure AlikeWithin (limits : Limits) (fields fields' : List Field) (within : String → Prop) :
    Prop where
  /-- The forms have the same names. -/
  names : ∀ name, (∃ f ∈ fields, f.name = name) ↔ ∃ f ∈ fields', f.name = name
  /-- Within, the fields of a name are the same. -/
  same : ∀ name, within name → ∀ f, f.name = name → (f ∈ fields ↔ f ∈ fields')
  /-- No field within refers to one outside. -/
  closed : ∀ a b, within a → References limits fields a b → within b
  /-- Names that are no fields are within. -/
  foreign : ∀ name, (¬∃ f ∈ fields, f.name = name) → within name

namespace AlikeWithin

variable {limits : Limits} {fields fields' : List Field} {within : String → Prop}
  (h : AlikeWithin limits fields fields' within)
include h

theorem references_iff {a b : String} (ha : within a) :
    References limits fields a b ↔ References limits fields' a b :=
  references_congr (h.same a ha) h.names

/-- What a field within depends on is the same in both forms. -/
theorem dependsOn_iff {a b : String} (ha : within a) :
    DependsOn limits fields a b ↔ DependsOn limits fields' a b := by
  constructor
  · -- a way out of the names within never leaves them, so each of its steps is one of both forms
    intro hdepends
    induction hdepends using Relation.TransGen.head_induction_on with
    | single hab => exact .single ((h.references_iff ha).mp hab)
    | head hac _ ih => exact .head ((h.references_iff ha).mp hac) (ih (h.closed _ _ ha hac))
  · intro hdepends
    induction hdepends using Relation.TransGen.head_induction_on with
    | single hab => exact .single ((h.references_iff ha).mpr hab)
    | head hac _ ih =>
      have hac := (h.references_iff ha).mpr hac
      exact .head hac (ih (h.closed _ _ ha hac))

theorem named?_eq (hnodup : (fields.map Field.name).Nodup) (hnodup' : (fields'.map Field.name).Nodup)
    {name : String} (hname : within name) :
    Field.named? fields name = Field.named? fields' name := by
  refine Option.ext fun f => ?_
  rw [Field.named?_eq_some_iff hnodup, Field.named?_eq_some_iff hnodup']
  exact and_congr_left fun hf => h.same name hname f hf

end AlikeWithin

namespace RecalcRules

variable {rules : RecalcRules} {fields fields' : List Field}

/-! ### The same field in two forms -/

section Named

variable {name : String} (hnamed : Field.named? fields name = Field.named? fields' name)
include hnamed

theorem outcome?_of_named? (data : FormData) :
    rules.outcome? fields data name = rules.outcome? fields' data name := by
  rw [outcome?, outcome?, formulaOf?, formulaOf?, hnamed]

theorem settledValue?_of_named? (before after : FormData) :
    rules.settledValue? fields before after name =
      rules.settledValue? fields' before after name := by
  rw [settledValue?, settledValue?, outcome?_of_named? hnamed, fallback?, fallback?, hnamed]

end Named

/-! ### Two passes -/

/-- **Within alike names, settled data are the same.** `order` and `order'` agree on these names only. -/
theorem get?_eq_of_settled {within : String → Prop} {order order' : List String}
    {before after after' : FormData}
    (hnamed : ∀ name, within name → Field.named? fields name = Field.named? fields' name)
    (hmem : ∀ name, within name → (name ∈ order ↔ name ∈ order'))
    (hreads : ∀ name other, within name → rules.Reads fields name other → within other)
    (horder : rules.InOrder fields order) (hafter : rules.Settled fields order before after)
    (hafter' : rules.Settled fields' order' before after') {name : String} (hname : within name) :
    after.get? name = after'.get? name := by
  -- the induction is on what is still to come; all names that are not to come are known to agree
  suffices hsuffix : ∀ later, (∀ name ∈ later, name ∈ order) → rules.InOrder fields later →
      (∀ name, within name → name ∉ later → after.get? name = after'.get? name) →
        ∀ name, within name → after.get? name = after'.get? name by
    refine hsuffix order (fun _ hmem => hmem) horder (fun name hname houtside => ?_) name hname
    rw [hafter name, hafter' name, if_neg houtside, if_neg (mt (hmem name hname).mpr houtside)]
  intro later
  induction later with
  | nil =>
    intro _ _ hdone name hname
    exact hdone name hname (by simp)
  | cons first later ih =>
    intro hsub hlater hdone
    obtain ⟨-, hfree, hlater⟩ := hlater
    obtain ⟨hfirst, hsub⟩ := List.forall_mem_cons.mp hsub
    refine ih hsub hlater fun name hname houtside => ?_
    by_cases heq : name = first
    · subst heq
      -- the formula reads nothing that is to come
      have hread : ∀ b, rules.Reads fields name b → after.get? b = after'.get? b := fun b hb =>
        hdone b (hreads name b hname hb) fun hmem => hfree b hmem hb
      calc after.get? name
          = rules.settledValue? fields before after name := by rw [hafter name, if_pos hfirst]
        _ = rules.settledValue? fields before after' name := settledValue?_congr rfl hread
        _ = rules.settledValue? fields' before after' name :=
            settledValue?_of_named? (hnamed name hname) before after'
        _ = after'.get? name := by rw [hafter' name, if_pos ((hmem name hname).mp hfirst)]
    · exact hdone name hname (List.not_mem_cons_of_ne_of_not_mem heq houtside)

section Built

variable {graph graph' : DependencyGraph}
  (hgraph : DependencyGraph.ofFields rules.limits fields = .ok graph)
  {within : String → Prop} (h : AlikeWithin rules.limits fields fields' within)
include hgraph h

/-- What a formula within reads is within. -/
theorem within_of_reads {name other : String} (hname : within name)
    (hreads : rules.Reads fields name other) : within other := by
  -- what is read may be no field at all: such names are within
  by_cases hfield : ∃ f ∈ fields, f.name = other
  · have hother := (DependencyGraph.mem_names_ofFields hgraph).mpr hfield
    have hprecedent := (mem_precedents_of_reads hgraph hreads hother).1
    exact h.closed name other hname ((DependencyGraph.mem_precedents_ofFields hgraph).mp hprecedent)
  · exact h.foreign other hfield

variable (hgraph' : DependencyGraph.ofFields rules.limits fields' = .ok graph')
include hgraph'

/-- Within alike names, the same fields are to be calculated. -/
theorem mem_calculationOrder_of_alikeWithin {changed : Option String} {name : String}
    (hname : within name) :
    name ∈ graph.calculationOrder changed ↔ name ∈ graph'.calculationOrder changed := by
  rw [DependencyGraph.mem_calculationOrder_iff hgraph, DependencyGraph.mem_calculationOrder_iff hgraph']
  refine and_congr ⟨?_, ?_⟩ (forall₂_congr fun field _ => h.dependsOn_iff hname)
  · rintro ⟨f, hf, hcalculated, hfname⟩
    exact ⟨f, (h.same name hname f hfname).mp hf, hcalculated, hfname⟩
  · rintro ⟨f, hf, hcalculated, hfname⟩
    exact ⟨f, (h.same name hname f hfname).mpr hf, hcalculated, hfname⟩

/-- **Within alike names, two recalculations cannot be told apart.** -/
theorem same_run_of_alikeWithin (changed : Option String) (data : FormData) {name : String}
    (hname : within name) :
    (rules.run fields graph changed data).data.get? name =
        (rules.run fields' graph' changed data).data.get? name ∧
      rules.outcome? fields (rules.run fields graph changed data).data name =
        rules.outcome? fields' (rules.run fields' graph' changed data).data name := by
  have hnamed : ∀ name, within name → Field.named? fields name = Field.named? fields' name :=
    fun _ hname => h.named?_eq (DependencyGraph.nodup_names_ofFields hgraph)
      (DependencyGraph.nodup_names_ofFields hgraph') hname
  have hvalue : ∀ name, within name → (rules.run fields graph changed data).data.get? name =
      (rules.run fields' graph' changed data).data.get? name := fun _ hname =>
    get?_eq_of_settled hnamed (fun _ => mem_calculationOrder_of_alikeWithin hgraph h hgraph')
      (fun _ _ => within_of_reads hgraph h) (inOrder_calculationOrder hgraph changed)
      (settled_run hgraph changed data) (settled_run hgraph' changed data) hname
  refine ⟨hvalue name hname, ?_⟩
  -- what the formula reads is within, where the values have just been found the same
  rw [← outcome?_of_named? (hnamed name hname)]
  exact outcome?_congr fun b hb => hvalue b (within_of_reads hgraph h hname hb)

end Built

end RecalcRules

end Formulary
