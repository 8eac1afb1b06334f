import Formulary.Proofs.Recalculation.Pass

/-!
# Recalculating after a change

When the data come from a full recalculation and one field without a formula is then changed, it is
enough to calculate the fields that the change affects: `incremental_eq_full` says that this ends with
the data that another full recalculation would end with.

The fields that are not affected are settled already, and stay so: their formulas read neither the
changed field nor an affected one (`settled_full_of_settled_affected`). Settled data are unique, so
nothing has to be said about the two orders of calculation.
-/

namespace Formulary.RecalcRules

variable {rules : RecalcRules} {fields : List Field} {graph : DependencyGraph}

/-- A field keeps its settled value when a later pass begins with it. -/
theorem settledValue?_of_settledValue? {name : String} {before middle after : FormData}
    (hmiddle : middle.get? name = rules.settledValue? fields before middle name)
    (houtcome : rules.outcome? fields after name = rules.outcome? fields middle name) :
    rules.settledValue? fields middle after name = middle.get? name := by
  rw [settledValue?, houtcome]
  rw [settledValue?] at hmiddle
  cases h : rules.outcome? fields middle name with
  | none => rfl
  | some result =>
    rw [h] at hmiddle
    cases result with
    | ok v => exact hmiddle.symm
    | error fault =>
      -- what it fell back to then is still there
      simp only at hmiddle ⊢
      rw [hmiddle, Option.or_assoc, Option.or_self]

section Built

variable (hgraph : DependencyGraph.ofFields rules.limits fields = .ok graph)
include hgraph

/-- A field that is calculated when everything is, but not when `field` has changed, reads neither
`field` nor anything calculated then. -/
theorem not_reads_of_unaffected {field name other : String} (hfield : field ∈ graph.names)
    (hall : name ∈ graph.calculationOrder none)
    (hunaffected : name ∉ graph.calculationOrder (some field)) (hne : name ≠ field)
    (hreads : rules.Reads fields name other) :
    other ≠ field ∧ other ∉ graph.calculationOrder (some field) := by
  obtain ⟨hname, hcalculated⟩ := (DependencyGraph.mem_calculationOrder_none hgraph).mp hall
  have hnot : name ∉ graph.affected field := fun haffected =>
    hunaffected ((DependencyGraph.mem_calculationOrder_some hgraph).mpr
      ⟨hname, haffected, hcalculated⟩)
  -- if it read one of them it would be affected as well, since affectedness is closed
  constructor
  · rintro rfl
    have hprecedent := (mem_precedents_of_reads hgraph hreads hfield).1
    exact hnot (DependencyGraph.mem_affected_of_mem_precedents (Or.inl rfl) hprecedent hname hne)
  · intro hmem
    obtain ⟨hother, haffected, -⟩ := (DependencyGraph.mem_calculationOrder_some hgraph).mp hmem
    have hprecedent := (mem_precedents_of_reads hgraph hreads hother).1
    exact hnot
      (DependencyGraph.mem_affected_of_mem_precedents (Or.inr haffected) hprecedent hname hne)

/-- Data settled for the affected fields are settled for all fields, if they go back to data that were
settled for all fields before one without a formula was changed. -/
theorem settled_full_of_settled_affected {field : String} {data first edited after : FormData}
    (hfield : field ∈ graph.names) (hplain : field ∉ graph.calculated)
    (hfirst : rules.Settled fields (graph.calculationOrder none) data first)
    (hedited : ∀ name, name ≠ field → edited.get? name = first.get? name)
    (hafter : rules.Settled fields (graph.calculationOrder (some field)) edited after) :
    rules.Settled fields (graph.calculationOrder none) edited after := by
  intro name
  by_cases haffected : name ∈ graph.calculationOrder (some field)
  · -- the pass has just settled an affected field
    obtain ⟨hname, -, hcalculated⟩ :=
      (DependencyGraph.mem_calculationOrder_some hgraph).mp haffected
    have hall := (DependencyGraph.mem_calculationOrder_none hgraph).mpr ⟨hname, hcalculated⟩
    rw [hafter name, if_pos haffected, if_pos hall]
  rw [hafter name, if_neg haffected]
  by_cases hall : name ∈ graph.calculationOrder none
  · rw [if_pos hall]
    have hne : name ≠ field := by
      rintro rfl
      exact hplain ((DependencyGraph.mem_calculationOrder_none hgraph).mp hall).2
    -- `name` was settled before the change, and what it reads is still the same
    have hsame : ∀ b, rules.Reads fields name b → after.get? b = first.get? b := by
      intro b hreads
      obtain ⟨hb, hb'⟩ := not_reads_of_unaffected hgraph hfield hall haffected hne hreads
      rw [hafter b, if_neg hb', hedited b hb]
    have hbefore : first.get? name = rules.settledValue? fields data first name := by
      rw [hfirst name, if_pos hall]
    calc edited.get? name
        = first.get? name := hedited name hne
      _ = rules.settledValue? fields first after name :=
          (settledValue?_of_settledValue? hbefore (outcome?_congr hsame)).symm
      _ = rules.settledValue? fields edited after name :=
          settledValue?_congr (hedited name hne).symm fun _ _ => rfl
  · rw [if_neg hall]

end Built

/-- **Incremental recalculation equals full recalculation.** A full recalculation is followed by a change
of one field `x` without a formula: it is given another value, or its value is removed. Recalculating
what the change affects then yields the same data as recalculating everything. -/
theorem incremental_eq_full (rules : RecalcRules) (fields : List Field) (graph : DependencyGraph)
    (hgraph : DependencyGraph.ofFields rules.limits fields = .ok graph) (data : FormData) (x : Field)
    (hx : x ∈ fields) (hformula : x.formula = none) (value? : Option Value) :
    ∃ first incremental full : Recalculated,
      rules.recalculate fields none data = .ok first ∧
      rules.recalculate fields (some x.name) (first.data.assign x.name value?) = .ok incremental ∧
      rules.recalculate fields none (first.data.assign x.name value?) = .ok full ∧
      incremental.data = full.data := by
  refine ⟨_, _, _, recalculate_eq_run hgraph none data, recalculate_eq_run hgraph _ _,
    recalculate_eq_run hgraph none _, (settled_iff_eq_run hgraph).mp ?_⟩
  have hfield : x.name ∈ graph.names :=
    (DependencyGraph.mem_names_ofFields hgraph).mpr ⟨x, hx, rfl⟩
  -- `x` is the only field of its name, and it has no formula
  have hplain : x.name ∉ graph.calculated := by
    intro hmem
    obtain ⟨f, hf, hcalculated, hname⟩ := (DependencyGraph.mem_calculated_ofFields hgraph).mp hmem
    obtain rfl := DependencyGraph.eq_of_name_eq hgraph hf hx hname
    simp [Field.isCalculated, hformula] at hcalculated
  -- the change is the only difference from the data that the first recalculation ended with
  have hedited : ∀ name, name ≠ x.name →
      ((rules.run fields graph none data).data.assign x.name value?).get? name =
        (rules.run fields graph none data).data.get? name := by
    intro name hne
    rw [NameMap.get?_assign, if_neg hne]
  exact settled_full_of_settled_affected hgraph hfield hplain (settled_run hgraph none data)
    hedited (settled_run hgraph (some x.name) _)

/-- The quantity of the invoice may be corrected, though the formula of the note cannot be read. -/
theorem incremental_eq_full_invoice :
    ∃ first incremental full : Recalculated,
      invoiceRules.recalculate invoice none invoiceData = .ok first ∧
      invoiceRules.recalculate invoice (some "quantity")
        (first.data.assign "quantity" (some (.number .one))) = .ok incremental ∧
      invoiceRules.recalculate invoice none
        (first.data.assign "quantity" (some (.number .one))) = .ok full ∧
      incremental.data = full.data :=
  incremental_eq_full invoiceRules invoice invoiceGraph ofFields_invoice invoiceData
    { name := "quantity", type := .number } (by simp [invoice]) rfl (some (.number .one))

end Formulary.RecalcRules
