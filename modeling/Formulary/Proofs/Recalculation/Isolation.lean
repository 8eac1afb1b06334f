import Formulary.Proofs.Recalculation.Comparison

/-!
# A formula is no concern of fields that do not depend on it

Whatever the formula of a field is, whether it can be read, fails, or refers to other fields, a field that
does not depend on that field cannot tell. `recalculate_isolated` compares a form with the same form after
one formula has been replaced: the graph, the fields to calculate and their order may all be different, and
still nothing has changed for the fields that do not depend on the one whose formula it is.

These fields and what they refer to are the names within which the two forms are alike
(`AlikeWithin.of_setFormula`).
-/

namespace Formulary

/-- The form in which the field of this name has another formula, or none. -/
def Field.setFormula (fields : List Field) (name : String) (formula : Option Formula) : List Field :=
  fields.map fun f => if f.name = name then { f with formula } else f

section SetFormula

variable {limits : Limits} {fields : List Field} {name : String} {formula : Option Formula}

/-- The fields of other names stay as they are. -/
theorem Field.mem_setFormula_of_ne {f : Field} (hne : f.name ≠ name) :
    f ∈ Field.setFormula fields name formula ↔ f ∈ fields := by
  rw [Field.setFormula, List.mem_map]
  constructor
  · rintro ⟨f', hf', rfl⟩
    split at hne
    · next heq => exact absurd heq hne
    · next hne => rwa [if_neg hne]
  · exact fun hf => ⟨f, hf, if_neg hne⟩

/-- There are the same names. -/
theorem Field.map_name_setFormula :
    (Field.setFormula fields name formula).map Field.name = fields.map Field.name := by
  rw [Field.setFormula, List.map_map]
  refine List.map_congr_left fun f _ => ?_
  rw [Function.comp_apply]
  split <;> rfl

/-- Replacing the formula of a field leaves a form alike among the other fields that do not depend on it. -/
theorem AlikeWithin.of_setFormula (limits : Limits) (hname : ∃ f ∈ fields, f.name = name) :
    AlikeWithin limits fields (Field.setFormula fields name formula)
      fun a => a ≠ name ∧ ¬DependsOn limits fields a name where
  names a := by
    have hmem : a ∈ fields.map Field.name ↔
        a ∈ (Field.setFormula fields name formula).map Field.name := by
      rw [Field.map_name_setFormula]
    simpa only [List.mem_map] using hmem
  same := by
    rintro a ⟨hne, -⟩ f rfl
    exact (Field.mem_setFormula_of_ne hne).symm
  closed := by
    rintro a b ⟨-, hfree⟩ hab
    refine ⟨?_, fun hdepends => hfree (.head hab hdepends)⟩
    rintro rfl
    exact hfree (.single hab)
  foreign := by
    intro a hforeign
    refine ⟨?_, fun hdepends => ?_⟩
    · rintro rfl
      exact hforeign hname
    · -- only fields depend on anything
      obtain ⟨b, hab, -⟩ := Relation.TransGen.head'_iff.mp hdepends
      exact hforeign hab.exists_fields.1

end SetFormula

namespace RecalcRules

variable {rules : RecalcRules} {fields : List Field}

/-- **Another formula for one field does not matter to the fields that do not depend on it.** If a form has
a graph with either formula, then each such field ends with the same value in both recalculations. It is to
be calculated in both or in neither, and is then computed in both or fails in both with the same fault. -/
theorem recalculate_isolated (rules : RecalcRules) (fields : List Field) (graph : DependencyGraph)
    (hgraph : DependencyGraph.ofFields rules.limits fields = .ok graph)
    (f : Field) (hf : f ∈ fields) (formula : Option Formula) (graph' : DependencyGraph)
    (hgraph' : DependencyGraph.ofFields rules.limits (Field.setFormula fields f.name formula) =
      .ok graph')
    (changed : Option String) (data : FormData) (name : String) (hne : name ≠ f.name)
    (hfree : ¬DependsOn rules.limits fields name f.name) :
    ∃ r r' : Recalculated, rules.recalculate fields changed data = .ok r ∧
      rules.recalculate (Field.setFormula fields f.name formula) changed data = .ok r' ∧
      r.data.get? name = r'.data.get? name ∧
      (name ∈ graph.calculationOrder changed ↔ name ∈ graph'.calculationOrder changed) ∧
      (name ∈ r.recomputed ↔ name ∈ r'.recomputed) ∧
      ∀ fault, ⟨name, fault⟩ ∈ r.failures ↔ ⟨name, fault⟩ ∈ r'.failures := by
  have halike : AlikeWithin rules.limits fields (Field.setFormula fields f.name formula) _ :=
    .of_setFormula rules.limits ⟨f, hf, rfl⟩
  have hselected :
      name ∈ graph.calculationOrder changed ↔ name ∈ graph'.calculationOrder changed :=
    mem_calculationOrder_of_alikeWithin hgraph halike hgraph' ⟨hne, hfree⟩
  -- what is reported of a name can be read off the outcome of its formula in the end, which is the same
  obtain ⟨hvalue, houtcome⟩ :=
    same_run_of_alikeWithin hgraph halike hgraph' changed data ⟨hne, hfree⟩
  refine ⟨_, _, recalculate_eq_run hgraph changed data, recalculate_eq_run hgraph' changed data,
    hvalue, hselected, ?_, fun fault => ?_⟩
  · rw [mem_recomputed_run hgraph, mem_recomputed_run hgraph', hselected, houtcome]
  · rw [mem_failures_run hgraph, mem_failures_run hgraph', hselected, houtcome]

end RecalcRules

/-! ### The invoice with a note that can be read -/

/-- The formula that the note of the invoice should have had. -/
def noteFormula : Formula := ⟨"total", .string⟩

/-- The graph of the invoice with this formula. -/
def notedGraph : DependencyGraph where
  names := ["quantity", "price", "total", "note"]
  calculated := ["total", "note"]
  edges := [⟨"total", "price", .formula⟩, ⟨"total", "quantity", .formula⟩, ⟨"note", "total", .formula⟩]
  skipped := []

theorem checkAcyclic_notedGraph : notedGraph.checkAcyclic = .ok () := by
  have hnames : notedGraph.names = ["quantity", "price", "total", "note"] := rfl
  have hquantity : notedGraph.precedents "quantity" = [] := rfl
  have hprice : notedGraph.precedents "price" = [] := rfl
  have htotal : notedGraph.precedents "total" = ["price", "quantity"] := rfl
  have hnote : notedGraph.precedents "note" = ["total"] := rfl
  simp [DependencyGraph.checkAcyclic, DependencyGraph.follow, hnames, hquantity, hprice, htotal,
    hnote]

theorem ofFields_noted :
    DependencyGraph.ofFields {} (Field.setFormula invoice "note" (some noteFormula)) =
      .ok notedGraph := by
  have hlexemes : Lexemes.ofChars (Text.trim "total".toList) =
      ⟨[⟨.name "total", 0⟩], .finished 5⟩ := by
    decide +kernel
  have hnote := DependencyGraph.ofText_lone (Or.inl rfl) (by decide +kernel) hlexemes
  have hvar : (Expression.var "total").variableNames = ["total"] := rfl
  have htexts : DependencyGraph.fieldTexts (Field.setFormula invoice "note" (some noteFormula)) =
      [("total", .formula, "quantity * price"), ("note", .formula, "total")] := rfl
  have hcollect : DependencyGraph.collect {}
      ((Field.setFormula invoice "note" (some noteFormula)).map Field.name)
      (DependencyGraph.fieldTexts (Field.setFormula invoice "note" (some noteFormula))) =
        .ok (notedGraph.edges, notedGraph.skipped) := by
    rw [htexts, Field.map_name_setFormula]
    simp [DependencyGraph.collect, ofText_total, hnote, DependencyGraph.edgesOf,
      variableNames_total, hvar, Role.yields, notedGraph, invoice]
  rw [DependencyGraph.ofFields_of_nodup (by decide), hcollect, ok_bind]
  change (notedGraph.checkAcyclic >>= _) = _
  rw [checkAcyclic_notedGraph]
  rfl

/-- Nothing on the invoice depends on the note. -/
theorem not_dependsOn_note (name : String) : ¬DependsOn {} invoice name "note" := by
  intro hdepends
  -- the last step of such a way would be an edge to the note
  obtain ⟨a, -, role, href⟩ := Relation.TransGen.tail'_iff.mp hdepends
  have hedge := (DependencyGraph.mem_edges_ofFields ofFields_invoice).mpr href
  simp [invoiceGraph] at hedge

/-- The total of the invoice is the same whether the note can be read or not. -/
theorem RecalcRules.recalculate_isolated_note :
    ∃ r r' : Recalculated, invoiceRules.recalculate invoice none invoiceData = .ok r ∧
      invoiceRules.recalculate (Field.setFormula invoice "note" (some noteFormula)) none
        invoiceData = .ok r' ∧
      r.data.get? "total" = r'.data.get? "total" ∧
      ("total" ∈ invoiceGraph.calculationOrder none ↔ "total" ∈ notedGraph.calculationOrder none) ∧
      ("total" ∈ r.recomputed ↔ "total" ∈ r'.recomputed) ∧
      ∀ fault, ⟨"total", fault⟩ ∈ r.failures ↔ ⟨"total", fault⟩ ∈ r'.failures :=
  recalculate_isolated invoiceRules invoice invoiceGraph ofFields_invoice
    { name := "note", type := .text, formula := some ⟨"UPPER(total", .string⟩ } (by simp [invoice])
    (some noteFormula) notedGraph ofFields_noted none invoiceData "total" (by decide)
    (not_dependsOn_note "total")

end Formulary
