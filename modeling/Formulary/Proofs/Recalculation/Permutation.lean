import Formulary.Proofs.Recalculation.Comparison
import Mathlib.Data.List.Perm.Basic

/-!
# The order in which fields are defined

Where several fields can be calculated next, the one that was defined first is. `recalculate_perm` says that
this is the only thing that the order of definition decides: a form whose fields stand in another order has a
graph too, and recalculating it ends with the same data, the same results in another order, and the same
figures.
-/

namespace Formulary

variable {limits : Limits} {fields fields' : List Field}

/-- A form is alike to itself in another order, all over. -/
theorem AlikeWithin.of_perm (limits : Limits) (hperm : fields.Perm fields') :
    AlikeWithin limits fields fields' fun _ => True where
  names name := by simp only [hperm.mem_iff]
  same _ _ _ _ := hperm.mem_iff
  closed _ _ _ _ := trivial
  foreign _ _ := trivial

namespace DependencyGraph

/-- A form has a graph whatever the order of its fields. -/
theorem exists_ofFields_of_perm (hperm : fields.Perm fields') {g : DependencyGraph}
    (h : ofFields limits fields = .ok g) : ∃ g', ofFields limits fields' = .ok g' := by
  have hnodup : (fields'.map Field.name).Nodup :=
    (hperm.map Field.name).nodup_iff.mp (nodup_names_ofFields h)
  -- a cycle in one order would be a cycle in the other
  refine exists_ofFields hnodup fun a hcycle => ?_
  have halike := AlikeWithin.of_perm limits hperm
  exact not_dependsOn_self h a ((halike.dependsOn_iff trivial).mpr hcycle)

end DependencyGraph

namespace RecalcRules

variable {rules : RecalcRules}

/-- The same fields are calculated, in some order. -/
theorem perm_calculationOrder (hperm : fields.Perm fields') {graph graph' : DependencyGraph}
    (hgraph : DependencyGraph.ofFields rules.limits fields = .ok graph)
    (hgraph' : DependencyGraph.ofFields rules.limits fields' = .ok graph') (changed : Option String) :
    (graph.calculationOrder changed).Perm (graph'.calculationOrder changed) := by
  refine (List.perm_ext_iff_of_nodup (DependencyGraph.nodup_calculationOrder hgraph changed)
    (DependencyGraph.nodup_calculationOrder hgraph' changed)).mpr fun name => ?_
  exact mem_calculationOrder_of_alikeWithin hgraph (.of_perm rules.limits hperm) hgraph' trivial

/-- In the end the data are the same, and so is what each formula comes to on them. -/
theorem same_run_of_perm (hperm : fields.Perm fields') {graph graph' : DependencyGraph}
    (hgraph : DependencyGraph.ofFields rules.limits fields = .ok graph)
    (hgraph' : DependencyGraph.ofFields rules.limits fields' = .ok graph')
    (changed : Option String) (data : FormData) :
    (rules.run fields graph changed data).data = (rules.run fields' graph' changed data).data ∧
      rules.outcome? fields (rules.run fields graph changed data).data =
        rules.outcome? fields' (rules.run fields' graph' changed data).data := by
  have halike := AlikeWithin.of_perm rules.limits hperm
  constructor
  · -- the forms are alike within all names, so the data are the same and not only some of their values
    refine NameMap.ext_get? fun name => ?_
    exact (same_run_of_alikeWithin hgraph halike hgraph' changed data trivial).1
  · funext name
    exact (same_run_of_alikeWithin hgraph halike hgraph' changed data trivial).2

/-- **The order in which fields are defined does not matter.** If a form has a graph, then so has the form
with its fields in another order. Recalculating either ends with the same data; the same fields are computed
and the same fail with the same faults, if in another order, and the figures are the same. -/
theorem recalculate_perm (rules : RecalcRules) (fields fields' : List Field) (graph : DependencyGraph)
    (hgraph : DependencyGraph.ofFields rules.limits fields = .ok graph)
    (hperm : fields.Perm fields') (changed : Option String) (data : FormData) :
    ∃ r r' : Recalculated, rules.recalculate fields changed data = .ok r ∧
      rules.recalculate fields' changed data = .ok r' ∧ r.data = r'.data ∧
        r.recomputed.Perm r'.recomputed ∧ r.failures.Perm r'.failures ∧ r.figures = r'.figures := by
  obtain ⟨graph', hgraph'⟩ := DependencyGraph.exists_ofFields_of_perm hperm hgraph
  have horder := perm_calculationOrder hperm hgraph hgraph' changed
  obtain ⟨hdata, houtcome⟩ := same_run_of_perm hperm hgraph hgraph' changed data
  -- what a pass reports of a name depends on the outcome of its formula in the end
  have hsuccess : rules.success? fields (rules.run fields graph changed data).data =
      rules.success? fields' (rules.run fields' graph' changed data).data := by
    funext name
    rw [success?, success?, houtcome]
  have hfailure : rules.failure? fields (rules.run fields graph changed data).data =
      rules.failure? fields' (rules.run fields' graph' changed data).data := by
    funext name
    rw [failure?, failure?, houtcome]
  have hdefault : rules.takesDefault fields data (rules.run fields graph changed data).data =
      rules.takesDefault fields' data (rules.run fields' graph' changed data).data := by
    funext name
    rw [takesDefault, takesDefault, hfailure]
  have hrecomputed := horder.filterMap
    (rules.success? fields (rules.run fields graph changed data).data)
  have hfailures := horder.filterMap
    (rules.failure? fields (rules.run fields graph changed data).data)
  refine ⟨_, _, recalculate_eq_run hgraph changed data, recalculate_eq_run hgraph' changed data,
    hdata, ?_, ?_, ?_⟩
  · rw [recomputed_run hgraph, recomputed_run hgraph', ← hsuccess]
    exact hrecomputed
  · rw [failures_run hgraph, failures_run hgraph', ← hfailure]
    exact hfailures
  · rw [figures_run, figures_run,
      recomputed_run hgraph, recomputed_run hgraph', failures_run hgraph, failures_run hgraph',
      defaulted_run hgraph, defaulted_run hgraph', ← hsuccess, ← hfailure, ← hdefault,
      horder.length_eq, hrecomputed.length_eq, hfailures.length_eq, horder.countP_eq]

/-- The invoice may be written down from the bottom up. -/
theorem recalculate_perm_invoice :
    invoice.Perm invoice.reverse ∧
      ∃ r r' : Recalculated, invoiceRules.recalculate invoice none invoiceData = .ok r ∧
        invoiceRules.recalculate invoice.reverse none invoiceData = .ok r' ∧ r.data = r'.data ∧
          r.recomputed.Perm r'.recomputed ∧ r.failures.Perm r'.failures ∧ r.figures = r'.figures :=
  ⟨(List.reverse_perm invoice).symm,
    recalculate_perm invoiceRules invoice invoice.reverse invoiceGraph ofFields_invoice
      (List.reverse_perm invoice).symm none invoiceData⟩

end RecalcRules

end Formulary
