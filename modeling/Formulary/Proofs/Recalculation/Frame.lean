import Formulary.Proofs.Recalculation.Consistency

/-!
# What a recalculation touches

A recalculation takes up the fields to calculate, each exactly once, and leaves everything else alone.
`recalculate_frame` says so of every form that has a graph: what is reported, the fields computed and those
whose formulas failed together, are the fields to calculate (`reported_perm`); any other name stands for what
it stood for before; and a field whose formula failed keeps its value, or has the default of its type if that
is wanted and it had none. The figures count what is reported.

That the fields to calculate are the fields with a formula, or those of them that depend on the field that
changed, is said without the graph (`DependsOn`).
-/

namespace Formulary

/-- What a recalculation reports: the fields computed, and those whose formulas failed. -/
def Recalculated.reported (r : Recalculated) : List String :=
  r.recomputed ++ r.failures.map FieldFailure.field

namespace RecalcRules

variable {rules : RecalcRules} {fields : List Field}

/-- Whether the formula of a name succeeds. -/
def succeeds (rules : RecalcRules) (fields : List Field) (data : FormData) (name : String) : Bool :=
  (rules.success? fields data name).isSome

/-- The names whose formulas succeed are picked out of a list. -/
theorem filterMap_success? (data : FormData) (order : List String) :
    order.filterMap (rules.success? fields data) = order.filter (rules.succeeds fields data) := by
  induction order with
  | nil => rfl
  | cons name rest ih =>
    rw [List.filterMap_cons, List.filter_cons, ih, succeeds]
    cases hsuccess : rules.success? fields data name with
    | none => rfl
    | some computed =>
      obtain ⟨rfl, -⟩ := outcome?_of_success? hsuccess
      rfl

/-- Where every formula comes to something, those that do not succeed fail. -/
theorem map_field_filterMap_failure? {data : FormData} {order : List String}
    (houtcome : ∀ name ∈ order, ∃ result, rules.outcome? fields data name = some result) :
    (order.filterMap (rules.failure? fields data)).map FieldFailure.field =
      order.filter fun name => !rules.succeeds fields data name := by
  induction order with
  | nil => rfl
  | cons name rest ih =>
    obtain ⟨⟨result, hname⟩, hrest⟩ := List.forall_mem_cons.mp houtcome
    rw [List.filterMap_cons, List.filter_cons, ← ih hrest, succeeds, success?, failure?, hname]
    cases result with
    | ok v => rfl
    | error fault => rfl

/-- Data settled for a failing field hold what it held before, or the default. -/
theorem Settled.get?_of_failure {order : List String} {before after : FormData}
    (hsettled : rules.Settled fields order before after) {name : String} (hname : name ∈ order)
    {fault : Fault} (houtcome : rules.outcome? fields after name = some (.error fault)) :
    after.get? name = (before.get? name).or (rules.fallback? fields name) := by
  rw [hsettled name, if_pos hname, settledValue?, houtcome]

section Built

variable {graph : DependencyGraph} (hgraph : DependencyGraph.ofFields rules.limits fields = .ok graph)
include hgraph

/-- **Each field to calculate is reported once**, and nothing else is. -/
theorem reported_perm (changed : Option String) (data : FormData) :
    (rules.run fields graph changed data).reported.Perm (graph.calculationOrder changed) := by
  have houtcome := fun name (hname : name ∈ graph.calculationOrder changed) =>
    exists_outcome?_of_mem hgraph hname (rules.run fields graph changed data).data
  -- a formula succeeds or fails, so the two reports are the order cut in two
  have hfailed := map_field_filterMap_failure? houtcome
  rw [Recalculated.reported, recomputed_run hgraph, failures_run hgraph, filterMap_success?, hfailed]
  exact List.filter_append_perm _ _

/-- The fields that have taken a default are counted among the failures. -/
theorem defaulted_eq_countP_failures (changed : Option String) (data : FormData) :
    (rules.run fields graph changed data).defaulted =
      if rules.defaultOnFailure then
        (rules.run fields graph changed data).failures.countP fun failure =>
          (data.get? failure.field).isNone
      else 0 := by
  rw [defaulted_run hgraph]
  cases hdefault : rules.defaultOnFailure with
  | false => exact List.countP_eq_zero.mpr fun name _ => by simp [takesDefault, hdefault]
  | true =>
    rw [if_pos rfl, failures_run hgraph, List.countP_filterMap]
    refine List.countP_congr fun name _ => ?_
    rw [takesDefault, hdefault, Bool.true_and]
    -- a field takes a default if it fails, and then it is the field of its failure
    cases hfailure : rules.failure? fields (rules.run fields graph changed data).data name with
    | none => simp
    | some failure =>
      obtain ⟨rfl, -⟩ := outcome?_of_failure? hfailure
      simp

end Built

/-- **A recalculation takes up each field to calculate exactly once, and touches nothing else.** What it
reports are, without repetition, the fields with a formula, and of these the ones that depend on the field
that changed, if one has. All other names stand for what they stood for. A field whose formula failed has
kept its value; if it had none, it has the default of its type or still none, as the rules want it. The
figures say how many fields there were to calculate, how many were computed, how many failed, and how many of
those took a default. -/
theorem recalculate_frame (rules : RecalcRules) (fields : List Field) (graph : DependencyGraph)
    (hgraph : DependencyGraph.ofFields rules.limits fields = .ok graph) (changed : Option String)
    (data : FormData) :
    ∃ r : Recalculated, rules.recalculate fields changed data = .ok r ∧
      rules.run fields graph changed data = r ∧
      r.reported.Nodup ∧
      (∀ name, name ∈ r.reported ↔
        (∃ f ∈ fields, f.isCalculated = true ∧ f.name = name) ∧
          ∀ field ∈ changed, DependsOn rules.limits fields name field) ∧
      (∀ name, name ∉ r.reported → r.data.get? name = data.get? name) ∧
      (∀ failure ∈ r.failures, ∃ f ∈ fields, f.name = failure.field ∧
        r.data.get? f.name = (data.get? f.name).or
          (if rules.defaultOnFailure then some f.type.defaultValue else none)) ∧
      r.figures.candidates = r.figures.computed + r.figures.failed ∧
      r.figures.computed = r.recomputed.length ∧
      r.figures.failed = r.failures.length ∧
      r.figures.defaulted = if rules.defaultOnFailure then
        r.failures.countP fun failure => (data.get? failure.field).isNone else 0 := by
  have hperm := reported_perm hgraph changed data
  have hsettled := settled_run hgraph changed data
  refine ⟨_, recalculate_eq_run hgraph changed data, rfl, ?_, fun name => ?_, fun name hname => ?_,
    fun failure hfailure => ?_, ?_, ?_, ?_, ?_⟩
  · -- what is reported is the order of calculation put differently, so it is known from there what it holds
    exact hperm.nodup_iff.mpr (DependencyGraph.nodup_calculationOrder hgraph changed)
  · rw [hperm.mem_iff]
    exact DependencyGraph.mem_calculationOrder_iff hgraph
  · rw [hperm.mem_iff] at hname
    -- in settled data a name that was not passed over is as it was
    rw [hsettled name, if_neg hname]
  · obtain ⟨horder, houtcome⟩ := (mem_failures_run hgraph).mp hfailure
    have hvalue := hsettled.get?_of_failure horder houtcome
    -- the failure has a formula behind it, and the formula a field
    obtain ⟨text, htext, -⟩ := Option.map_eq_some_iff.mp houtcome
    obtain ⟨f, hnamed, -⟩ := Option.bind_eq_some_iff.mp htext
    obtain ⟨hf, hname⟩ := Field.name_of_named? hnamed
    refine ⟨f, hf, hname, ?_⟩
    rw [hname, hvalue, fallback?, hnamed]
    rfl
  · -- every candidate is reported, as computed or as failed
    have hlength := hperm.length_eq
    rw [Recalculated.reported, List.length_append, List.length_map] at hlength
    rw [figures_run, hlength]
  · rw [figures_run]
  · rw [figures_run]
  · rw [figures_run]
    exact defaulted_eq_countP_failures hgraph changed data

/-- The invoice may be recalculated though its note cannot be read. -/
theorem recalculate_frame_invoice :
    ∃ r : Recalculated, invoiceRules.recalculate invoice none invoiceData = .ok r ∧
      invoiceRules.run invoice invoiceGraph none invoiceData = r ∧
      r.reported.Nodup ∧
      (∀ name, name ∈ r.reported ↔
        (∃ f ∈ invoice, f.isCalculated = true ∧ f.name = name) ∧
          ∀ field ∈ (none : Option String), DependsOn {} invoice name field) ∧
      (∀ name, name ∉ r.reported → r.data.get? name = invoiceData.get? name) ∧
      (∀ failure ∈ r.failures, ∃ f ∈ invoice, f.name = failure.field ∧
        r.data.get? f.name = (invoiceData.get? f.name).or (some f.type.defaultValue)) ∧
      r.figures.candidates = r.figures.computed + r.figures.failed ∧
      r.figures.computed = r.recomputed.length ∧
      r.figures.failed = r.failures.length ∧
      r.figures.defaulted =
        r.failures.countP fun failure => (invoiceData.get? failure.field).isNone :=
  recalculate_frame invoiceRules invoice invoiceGraph ofFields_invoice none invoiceData

end RecalcRules

end Formulary
