import Formulary.Proofs.Recalculation.Pass

/-!
# What a recalculation reports is true in the end

Each formula is computed on the data as they are when its turn comes, and later formulas write to the
data too. `recalculate_consistent` says that this cannot be told from the result: a field reported as
computed holds what its formula yields on the final data, and a failure reported is the failure of the
formula on the final data. Nothing that was to be calculated goes unreported.
-/

namespace Formulary.RecalcRules

variable {rules : RecalcRules} {fields : List Field}

/-- The formula of a name belongs to a field of that name. -/
theorem formula_of_outcome? {data : FormData} {name : String} {result : Except Fault Value}
    (h : rules.outcome? fields data name = some result) :
    ∃ f ∈ fields, f.name = name ∧ ∃ text, f.formulaText? = some text ∧
      rules.compute data text = result := by
  obtain ⟨text, htext, hresult⟩ := Option.map_eq_some_iff.mp h
  obtain ⟨f, hnamed, hformula⟩ := Option.bind_eq_some_iff.mp htext
  obtain ⟨hf, hname⟩ := Field.name_of_named? hnamed
  exact ⟨f, hf, hname, text, hformula, hresult⟩

theorem outcome?_of_success? {data : FormData} {name computed : String}
    (h : rules.success? fields data name = some computed) :
    name = computed ∧ ∃ v, rules.outcome? fields data name = some (.ok v) := by
  rw [success?] at h
  split at h
  · next v houtcome => exact ⟨Option.some.inj h, v, houtcome⟩
  · exact absurd h (by simp)

theorem outcome?_of_failure? {data : FormData} {name : String} {failure : FieldFailure}
    (h : rules.failure? fields data name = some failure) :
    name = failure.field ∧ rules.outcome? fields data name = some (.error failure.fault) := by
  rw [failure?] at h
  split at h
  · next fault houtcome =>
    obtain rfl := Option.some.inj h
    exact ⟨rfl, houtcome⟩
  · exact absurd h (by simp)

/-- In settled data, a field passed over whose formula succeeds holds what the formula yields. -/
theorem Settled.get?_eq {order : List String} {before after : FormData}
    (hsettled : rules.Settled fields order before after) {name : String} (hname : name ∈ order)
    {v : Value} (houtcome : rules.outcome? fields after name = some (.ok v)) :
    after.get? name = some v := by
  rw [hsettled name, if_pos hname, settledValue?, houtcome]

section Built

variable {graph : DependencyGraph} (hgraph : DependencyGraph.ofFields rules.limits fields = .ok graph)
include hgraph

/-- The formula of a field to calculate comes to something. -/
theorem exists_outcome?_of_mem {changed : Option String} {name : String}
    (hname : name ∈ graph.calculationOrder changed) (data : FormData) :
    ∃ result, rules.outcome? fields data name = some result := by
  -- only fields with formulas are calculated, and a name stands for one field
  have hcalculated : name ∈ graph.calculated := by
    cases changed with
    | none => exact ((DependencyGraph.mem_calculationOrder_none hgraph).mp hname).2
    | some field => exact ((DependencyGraph.mem_calculationOrder_some hgraph).mp hname).2.2
  obtain ⟨f, hf, hformula, rfl⟩ := (DependencyGraph.mem_calculated_ofFields hgraph).mp hcalculated
  have hnamed : Field.named? fields f.name = some f :=
    (Field.named?_eq_some_iff (DependencyGraph.nodup_names_ofFields hgraph)).mpr ⟨hf, rfl⟩
  obtain ⟨formula, htext⟩ := Option.isSome_iff_exists.mp hformula
  refine ⟨rules.compute data formula.text, ?_⟩
  rw [outcome?, formulaOf?, hnamed, Option.bind_some, Field.formulaText?, htext]
  rfl

/-- The fields reported as computed are those whose formulas succeed on the final data. -/
theorem mem_recomputed_run {changed : Option String} {data : FormData} {name : String} :
    name ∈ (rules.run fields graph changed data).recomputed ↔
      name ∈ graph.calculationOrder changed ∧
        ∃ v, rules.outcome? fields (rules.run fields graph changed data).data name = some (.ok v) := by
  rw [recomputed_run hgraph, List.mem_filterMap]
  constructor
  · rintro ⟨_, hname, hsuccess⟩
    obtain ⟨rfl, hok⟩ := outcome?_of_success? hsuccess
    exact ⟨hname, hok⟩
  · rintro ⟨hname, v, hok⟩
    exact ⟨name, hname, by rw [success?, hok]⟩

/-- The failures reported are those of the formulas on the final data. -/
theorem mem_failures_run {changed : Option String} {data : FormData} {failure : FieldFailure} :
    failure ∈ (rules.run fields graph changed data).failures ↔
      failure.field ∈ graph.calculationOrder changed ∧
        rules.outcome? fields (rules.run fields graph changed data).data failure.field =
          some (.error failure.fault) := by
  rw [failures_run hgraph, List.mem_filterMap]
  constructor
  · rintro ⟨_, hname, hfailure⟩
    obtain ⟨rfl, herror⟩ := outcome?_of_failure? hfailure
    exact ⟨hname, herror⟩
  · rintro ⟨hname, herror⟩
    exact ⟨failure.field, hname, by rw [failure?, herror]⟩

end Built

/-- **A recalculation reports what holds of the data that it ends with.** It succeeds on every form that
has a graph. Each field that it reports as computed then holds what its formula yields on the final
data, and each failure that it reports is the one of the formula on the final data. Every field to
calculate is reported in one way or the other. -/
theorem recalculate_consistent (rules : RecalcRules) (fields : List Field) (graph : DependencyGraph)
    (hgraph : DependencyGraph.ofFields rules.limits fields = .ok graph) (changed : Option String)
    (data : FormData) :
    ∃ r : Recalculated, rules.recalculate fields changed data = .ok r ∧
      (∀ name ∈ r.recomputed, ∃ f ∈ fields, f.name = name ∧ ∃ text, f.formulaText? = some text ∧
        ∃ v, rules.compute r.data text = .ok v ∧ r.data.get? name = some v) ∧
      (∀ failure ∈ r.failures, ∃ f ∈ fields, f.name = failure.field ∧
        ∃ text, f.formulaText? = some text ∧
          rules.compute r.data text = .error failure.fault) ∧
      ∀ name ∈ graph.calculationOrder changed,
        name ∈ r.recomputed ∨ ∃ failure ∈ r.failures, failure.field = name := by
  have horder := inOrder_calculationOrder hgraph changed
  refine ⟨_, recalculate_eq_run hgraph changed data, ?_, ?_, ?_⟩
  · intro name hmem
    -- the formula succeeds on the final data, and settled data hold what it yields
    rw [run, recomputed_foldl horder, List.nil_append] at hmem
    obtain ⟨name', hname, hsuccess⟩ := List.mem_filterMap.mp hmem
    obtain ⟨rfl, v, houtcome⟩ := outcome?_of_success? hsuccess
    obtain ⟨f, hf, hfname, text, htext, hcompute⟩ := formula_of_outcome? houtcome
    have hvalue := (settled_run hgraph changed data).get?_eq hname houtcome
    exact ⟨f, hf, hfname, text, htext, v, hcompute, hvalue⟩
  · intro failure hmem
    rw [run, failures_foldl horder, List.nil_append] at hmem
    obtain ⟨name', -, hfailure⟩ := List.mem_filterMap.mp hmem
    obtain ⟨rfl, houtcome⟩ := outcome?_of_failure? hfailure
    exact formula_of_outcome? houtcome
  · intro name hname
    rw [run, recomputed_foldl horder, failures_foldl horder, List.nil_append, List.nil_append]
    -- a formula to calculate comes to something, a value or a fault
    obtain ⟨result, houtcome⟩ := exists_outcome?_of_mem hgraph hname
      (rules.run fields graph changed data).data
    rw [run] at houtcome
    cases result with
    | ok v => exact Or.inl (List.mem_filterMap.mpr ⟨name, hname, by rw [success?, houtcome]⟩)
    | error fault =>
      exact Or.inr ⟨⟨name, fault⟩,
        List.mem_filterMap.mpr ⟨name, hname, by rw [failure?, houtcome]⟩, rfl⟩

/-- The invoice may be recalculated after its price has changed. -/
theorem recalculate_consistent_invoice :
    ∃ r : Recalculated, invoiceRules.recalculate invoice (some "price") invoiceData = .ok r ∧
      (∀ name ∈ r.recomputed, ∃ f ∈ invoice, f.name = name ∧
        ∃ text, f.formulaText? = some text ∧
          ∃ v, invoiceRules.compute r.data text = .ok v ∧ r.data.get? name = some v) ∧
      (∀ failure ∈ r.failures, ∃ f ∈ invoice, f.name = failure.field ∧
        ∃ text, f.formulaText? = some text ∧
          invoiceRules.compute r.data text = .error failure.fault) ∧
      ∀ name ∈ invoiceGraph.calculationOrder (some "price"),
        name ∈ r.recomputed ∨ ∃ failure ∈ r.failures, failure.field = name :=
  recalculate_consistent invoiceRules invoice invoiceGraph ofFields_invoice (some "price")
    invoiceData

end Formulary.RecalcRules
