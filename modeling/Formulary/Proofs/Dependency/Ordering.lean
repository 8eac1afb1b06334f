import Formulary.Proofs.Dependency.Calculation
import Mathlib.Data.List.Lex

/-!
# The order is the least one

Fields can often be put into more than one order in which each comes after those of them that it depends
on (`DependencyGraph.Orders`). Compare two such orders where they first differ: the one whose field was
defined first is the lesser. `DependencyGraph.order` yields the least of all (`IsLeastOrder`).

That it does is a greedy argument. Any order begins with a free field and goes on with an order of the
others (`Orders.isFree_first`, `Orders.tail`), and `order` begins with the free field that was defined
first. An order that begins with another one is therefore greater, and one that begins with the same is
compared further on (`order_eq_or_comesBefore`).

`ordering_of_ofFields` puts together what is known of the orders in the graph of a form: which fields they
hold, that they are the least, and that counting never comes below zero on the way.
-/

namespace Formulary

namespace DependencyGraph

variable {g : DependencyGraph} {waiting : List String}

/-! ### Orders -/

/-- An order of fields, in which each comes after those of them that it depends on directly. -/
structure Orders (g : DependencyGraph) (fields order : List String) : Prop where
  /-- Each field is there once. -/
  perm : order.Perm fields
  /-- What a field depends on is further up. -/
  earlier : ∀ before name after, order = before ++ name :: after →
    ∀ p ∈ fields, g.Precedes name p → p ∈ before

/-- The place at which a field was defined. -/
def definedAt (g : DependencyGraph) (name : String) : Nat := g.names.idxOf name

/-- Where the two lists first differ, the first has a field that was defined earlier. -/
def ComesBefore (g : DependencyGraph) (order other : List String) : Prop :=
  List.Lex (· < ·) (order.map g.definedAt) (other.map g.definedAt)

/-- The order that comes before every other one. -/
structure IsLeastOrder (g : DependencyGraph) (fields order : List String) : Prop where
  /-- It is an order. -/
  orders : g.Orders fields order
  /-- No other one comes before it. -/
  least : ∀ other, g.Orders fields other → order = other ∨ g.ComesBefore order other

/-! ### Comparing orders -/

theorem ComesBefore.cons {order other : List String} (name : String) (h : g.ComesBefore order other) :
    g.ComesBefore (name :: order) (name :: other) :=
  List.Lex.cons h

theorem comesBefore_of_definedAt_lt {first second : String} (rest others : List String)
    (h : g.definedAt first < g.definedAt second) :
    g.ComesBefore (first :: rest) (second :: others) :=
  List.Lex.rel h

/-- The names of a graph stand in the order of their definition. -/
theorem pairwise_definedAt (hnodup : g.names.Nodup) :
    g.names.Pairwise fun a b => g.definedAt a < g.definedAt b := by
  refine List.pairwise_iff_getElem.mpr fun i j hi hj hlt => ?_
  rw [definedAt, definedAt, hnodup.idxOf_getElem, hnodup.idxOf_getElem]
  exact hlt

namespace Orders

variable {first : String} {rest : List String}

theorem mem_first (h : g.Orders waiting (first :: rest)) : first ∈ waiting :=
  h.perm.mem_iff.mp List.mem_cons_self

/-- An order begins with a free field. -/
theorem isFree_first (h : g.Orders waiting (first :: rest)) : g.isFree waiting first = true := by
  have hfree : ∀ p ∈ g.precedents first, p ∉ waiting := by
    intro p hprecedes hwaiting
    have hnone := h.earlier [] first rest rfl p hwaiting hprecedes
    contradiction
  simpa [isFree] using hfree

/-- What comes after the first field is an order of the others. -/
theorem tail (hnodup : waiting.Nodup) (h : g.Orders waiting (first :: rest)) :
    g.Orders (waiting.erase first) rest where
  perm := (List.cons_perm_iff_perm_erase.mp h.perm).2
  earlier := by
    intro before name after heq p hp hprecedes
    obtain ⟨hne, hwaiting⟩ := hnodup.mem_erase_iff.mp hp
    have hbefore : p ∈ first :: before :=
      h.earlier (first :: before) name after (by rw [heq, List.cons_append]) p hwaiting hprecedes
    exact (List.mem_cons.mp hbefore).resolve_left hne

end Orders

/-- **No order comes before the one that takes the first free field.** -/
theorem order_eq_or_comesBefore (hnodup : waiting.Nodup)
    (hdefined : waiting.Pairwise fun a b => g.definedAt a < g.definedAt b) {other : List String}
    (h : g.Orders waiting other) : g.order waiting = other ∨ g.ComesBefore (g.order waiting) other := by
  -- along the fields as they are taken, any other order being compared with what is left
  induction waiting using takeFree.induct g generalizing other with
  | case1 waiting hnone =>
    rw [order_of_find?_none hnodup hnone]
    cases other with
    -- no field is free, and an order with a first field would begin with one
    | nil => exact Or.inl rfl
    | cons first rest => exact absurd h.isFree_first (List.find?_eq_none.mp hnone first h.mem_first)
  | case2 waiting field hfield ih =>
    rw [order_of_find?_some hnodup hfield]
    cases other with
    | nil =>
      have hmem := h.perm.mem_iff.mpr (List.mem_of_find?_eq_some hfield)
      contradiction
    | cons first rest =>
      by_cases hfirst : first = field
      · -- both begin with the same field
        subst hfirst
        have hsublist : (waiting.erase first).Sublist waiting := List.erase_sublist
        rcases ih (hnodup.erase first) (hdefined.sublist hsublist) (h.tail hnodup) with heq | hbefore
        · exact Or.inl (by rw [heq])
        · exact Or.inr (hbefore.cons first)
      · -- `field` is the first free one, so `first`, which is free as well, was defined later
        obtain ⟨-, before, after, rfl, hbusy⟩ := List.find?_eq_some_iff_append.mp hfield
        have hlater : first ∈ after := by
          rcases List.mem_append.mp h.mem_first with hmem | hmem
          · have hnot := hbusy first hmem
            rw [h.isFree_first] at hnot
            contradiction
          · exact (List.mem_cons.mp hmem).resolve_left hfirst
        have hpairs := (List.pairwise_append.mp hdefined).2.1
        exact Or.inr (comesBefore_of_definedAt_lt _ _ ((List.pairwise_cons.mp hpairs).1 first hlater))

/-! ### The graph of a form -/

section Built

variable {limits : Limits} {fields : List Field} (h : ofFields limits fields = .ok g)
include h

/-- In the graph of a form, what `order` yields is an order. -/
theorem orders_order (keep : String → Bool) :
    g.Orders (g.names.filter keep) (g.order (g.names.filter keep)) where
  perm := order_filter_perm h keep
  earlier := by
    intro before name after heq p hp hprecedes
    have hnodup : (g.names.filter keep).Nodup := (ofFields_eq_ok h).2.1.filter keep
    have hpairs := order_pairwise (g := g) hnodup
    have hmem := (order_filter_perm h keep).mem_iff.mpr hp
    rw [heq] at hpairs hmem
    rcases List.mem_append.mp hmem with hbefore | hmem
    · exact hbefore
    · rcases List.mem_cons.mp hmem with rfl | hafter
      · -- no field depends on itself
        have hself : References limits fields p p := precedes_ofFields h ▸ hprecedes
        exact absurd (Relation.TransGen.single hself) (not_dependsOn_self h p)
      · have hrest := (List.pairwise_append.mp hpairs).2.1
        exact absurd hprecedes ((List.pairwise_cons.mp hrest).1 p hafter)

/-- **In the graph of a form, what `order` yields is the least order.** -/
theorem isLeastOrder_order (keep : String → Bool) :
    g.IsLeastOrder (g.names.filter keep) (g.order (g.names.filter keep)) where
  orders := orders_order h keep
  least := by
    intro other hother
    -- what is kept of the names stands in the order of their definition
    have hnodup : g.names.Nodup := (ofFields_eq_ok h).2.1
    have hdefined := (pairwise_definedAt hnodup).sublist (List.filter_sublist (p := keep))
    exact order_eq_or_comesBefore (hnodup.filter keep) hdefined hother

theorem mem_topologicalOrder {name : String} :
    name ∈ g.topologicalOrder ↔ ∃ f ∈ fields, f.name = name := by
  have hperm := order_filter_perm h fun _ => true
  rw [List.filter_true] at hperm
  rw [topologicalOrder, hperm.mem_iff, mem_names_ofFields h]

/-- **What a change affects**, in their order, are the other fields that depend on the field that
changed. -/
theorem mem_affectedBy {field name : String} :
    name ∈ g.affectedBy field ↔ name ≠ field ∧ Relation.TransGen g.Precedes name field := by
  have hperm := order_filter_perm h fun name => name ∈ g.affected field
  rw [affectedBy, hperm.mem_iff, List.mem_filter, decide_eq_true_eq, mem_affected_iff h,
    precedes_ofFields h]
  constructor
  · rintro ⟨-, hdepends⟩
    refine ⟨?_, hdepends⟩
    rintro rfl
    exact not_dependsOn_self h name hdepends
  · rintro ⟨-, hdepends⟩
    obtain ⟨next, hstep, -⟩ := Relation.TransGen.head'_iff.mp hdepends
    exact ⟨(mem_names_ofFields h).mpr hstep.exists_fields.1, hdepends⟩

theorem nodup_topologicalOrder : g.topologicalOrder.Nodup := nodup_order (ofFields_eq_ok h).2.1

theorem nodup_affectedBy (field : String) : (g.affectedBy field).Nodup :=
  nodup_order ((ofFields_eq_ok h).2.1.filter _)

/-- **Orders in the graph of a form.** Fields of the form, all or some, are put into the least order in
which each comes after those of them that it depends on directly, and no count is lowered on the way
that is not positive. The running order of the form holds every field once; what a change affects, the
other fields from which references lead to the one that changed; and what is calculated, those of them
that have a formula, or if nothing has changed all that have one. -/
theorem ordering_of_ofFields :
    (∀ keep : String → Bool,
        g.IsLeastOrder (g.names.filter keep) (g.order (g.names.filter keep)) ∧
          ∀ s name pending, Sorting.Reached g (g.names.filter keep) s (name :: pending) →
            ∀ count, s.counts.lookup name = some count → 0 < count) ∧
      (g.topologicalOrder.Nodup ∧
        ∀ name, name ∈ g.topologicalOrder ↔ ∃ f ∈ fields, f.name = name) ∧
      (∀ field, (g.affectedBy field).Nodup ∧
        ∀ name, name ∈ g.affectedBy field ↔
          name ≠ field ∧ Relation.TransGen g.Precedes name field) ∧
      ∀ changed, (g.calculationOrder changed).Nodup ∧
        ∀ name, name ∈ g.calculationOrder changed ↔
          (∃ f ∈ fields, f.isCalculated = true ∧ f.name = name) ∧
            ∀ field ∈ changed, name ∈ g.affectedBy field := by
  refine ⟨fun keep => ⟨isLeastOrder_order h keep, ?_⟩, ⟨nodup_topologicalOrder h, ?_⟩, ?_, ?_⟩
  · intro s name pending hreached count hcount
    exact hreached.count_pos ((ofFields_eq_ok h).2.1.filter keep) hcount
  · intro name
    exact mem_topologicalOrder h
  · intro field
    exact ⟨nodup_affectedBy h field, fun name => mem_affectedBy h⟩
  · intro changed
    refine ⟨nodup_calculationOrder h changed, fun name => ?_⟩
    rw [mem_calculationOrder_iff h]
    refine and_congr_right fun _ => forall₂_congr fun field _ => ?_
    -- no field is affected by itself
    rw [mem_affectedBy h, precedes_ofFields h]
    refine ⟨fun hdepends => ⟨?_, hdepends⟩, And.right⟩
    rintro rfl
    exact not_dependsOn_self h name hdepends

end Built

end DependencyGraph

/-! ### An invoice

A form to try the statements on: a total that is computed, and a note whose formula cannot be read. -/

/-- The fields of an invoice. -/
def invoice : List Field :=
  [{ name := "quantity", type := .number }, { name := "price", type := .number },
    { name := "total", type := .number, formula := some ⟨"quantity * price", .arithmetic⟩ },
    { name := "note", type := .text, formula := some ⟨"UPPER(total", .string⟩ }]

/-- The graph of the invoice. -/
def invoiceGraph : DependencyGraph where
  names := ["quantity", "price", "total", "note"]
  calculated := ["total", "note"]
  edges := [⟨"total", "price", .formula⟩, ⟨"total", "quantity", .formula⟩]
  skipped := [⟨"note", .formula, .unbalancedParentheses 5⟩]

theorem ofText_total : Expression.ofText {} "quantity * price" =
    .ok (.call "MULTIPLY" [.var "quantity", .var "price"]) := by
  have hscreen : Screen.check {} "quantity * price".toList = .ok () := by decide +kernel
  have hlexemes : Lexemes.ofChars (Text.trim "quantity * price".toList) =
      ⟨[⟨.name "quantity", 0⟩, ⟨.symbol .star, 9⟩, ⟨.name "price", 11⟩], .finished 16⟩ := by
    decide +kernel
  rw [Expression.ofText, Expression.ofChars, hscreen, hlexemes]
  -- the reader recurses on the lexemes and the level, which evaluation alone does not open
  simp [Expression.ofLexemes, Expression.Rules.chain, Expression.Rules.chainFrom,
    Expression.Rules.operand, Expression.Rules.signed, Expression.Rules.primary, Lexemes.pass,
    Level.join?, bind, Except.bind, pure, Except.pure]

theorem variableNames_total :
    (Expression.call "MULTIPLY" [.var "quantity", .var "price"]).variableNames =
      ["price", "quantity"] :=
  rfl

theorem ofText_note : Expression.ofText {} "UPPER(total" = .error (.unbalancedParentheses 5) := by
  have hscreen : Screen.check {} "UPPER(total".toList = .error (.unbalancedParentheses 5) := by
    decide +kernel
  rw [Expression.ofText, Expression.ofChars, hscreen]
  rfl

theorem checkAcyclic_invoiceGraph : invoiceGraph.checkAcyclic = .ok () := by
  have hnames : invoiceGraph.names = ["quantity", "price", "total", "note"] := rfl
  have hquantity : invoiceGraph.precedents "quantity" = [] := rfl
  have hprice : invoiceGraph.precedents "price" = [] := rfl
  have htotal : invoiceGraph.precedents "total" = ["price", "quantity"] := rfl
  have hnote : invoiceGraph.precedents "note" = [] := rfl
  simp [DependencyGraph.checkAcyclic, DependencyGraph.follow, hnames, hquantity, hprice, htotal,
    hnote]

/-- The graph of the invoice has been made from its fields. -/
theorem ofFields_invoice : DependencyGraph.ofFields {} invoice = .ok invoiceGraph := by
  have htexts : DependencyGraph.fieldTexts invoice =
      [("total", .formula, "quantity * price"), ("note", .formula, "UPPER(total")] := rfl
  have hcollect : DependencyGraph.collect {} (invoice.map Field.name)
      (DependencyGraph.fieldTexts invoice) = .ok (invoiceGraph.edges, invoiceGraph.skipped) := by
    rw [htexts]
    simp [DependencyGraph.collect, ofText_total, ofText_note, DependencyGraph.edgesOf,
      variableNames_total, Role.yields, invoiceGraph, invoice]
  rw [DependencyGraph.ofFields_of_nodup (by decide), hcollect, ok_bind]
  change (invoiceGraph.checkAcyclic >>= _) = _
  rw [checkAcyclic_invoiceGraph]
  rfl

/-- Of the invoice, the price comes before the total, and there is no lesser order of the two. -/
theorem ordering_invoice :
    DependencyGraph.ofFields {} invoice = .ok invoiceGraph ∧
      invoiceGraph.IsLeastOrder ["price", "total"] (invoiceGraph.order ["price", "total"]) ∧
      ("total" ∈ invoiceGraph.affectedBy "price" ↔
        "total" ≠ "price" ∧ Relation.TransGen invoiceGraph.Precedes "total" "price") := by
  obtain ⟨horders, -, haffected, -⟩ := DependencyGraph.ordering_of_ofFields ofFields_invoice
  have hkeep : invoiceGraph.names.filter (fun name => name ∈ ["total", "price"]) =
      ["price", "total"] := rfl
  exact ⟨ofFields_invoice, hkeep ▸ (horders fun name => name ∈ ["total", "price"]).1,
    (haffected "price").2 "total"⟩

end Formulary
