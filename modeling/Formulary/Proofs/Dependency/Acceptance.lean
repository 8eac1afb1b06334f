import Formulary.Proofs.Dependency.Cycles
import Formulary.Proofs.Dependency.Edges

/-!
# Which forms have a graph

`DependencyGraph.ofFields` accepts a form exactly if its fields have different names and none of them
depends on itself, and then the graph shows the references among the fields and nothing else
(`DependencyGraph.Depicts`). A form whose fields depend on one another in a circle is refused with such a
circle. `ofFields_acceptance` puts all of this together.

There are two places where a circle is found. An expression that mentions the very field that it yields
something for is refused while the edges are collected, and the search for a cycle sees only what is left
after that.
-/

namespace Formulary

variable {limits : Limits} {fields : List Field}

namespace IsCycle

variable {refersTo other : String → String → Prop}

/-- A field that refers to itself. -/
theorem single {a : String} (h : refersTo a a) : IsCycle refersTo [a, a] :=
  ⟨by simp, rfl, List.nodup_singleton a, List.isChain_pair.mpr h⟩

theorem imp {path : List String} (himp : ∀ a b, refersTo a b → other a b)
    (h : IsCycle refersTo path) : IsCycle other path :=
  ⟨h.two_le_length, h.closed, h.distinct, h.steps.imp himp⟩

end IsCycle

namespace DependencyGraph

/-- A graph shows the references among the fields of a form, and nothing else. -/
structure Depicts (limits : Limits) (fields : List Field) (g : DependencyGraph) : Prop where
  /-- There is an edge for each reference. -/
  mem_edges : ∀ edge, edge ∈ g.edges ↔ IsReference limits fields edge
  /-- No edge is there twice. -/
  nodup_edges : g.edges.Nodup
  /-- The precedents of a field are what it refers to. -/
  mem_precedents : ∀ a b, b ∈ g.precedents a ↔ References limits fields a b
  /-- No precedent is there twice. -/
  nodup_precedents : ∀ a, (g.precedents a).Nodup
  /-- The dependents of a field are those that refer to it. -/
  mem_dependents : ∀ a b, a ∈ g.dependents b ↔ References limits fields a b
  /-- No dependent is there twice. -/
  nodup_dependents : ∀ b, (g.dependents b).Nodup
  /-- The expressions skipped are those that cannot be read, each with the reason. -/
  mem_skipped : ∀ s, s ∈ g.skipped ↔ ∃ f ∈ fields, f.name = s.field ∧
    ∃ text, (s.role, text) ∈ f.expressions ∧ Expression.ofText limits text = .error s.fault
  /-- No expression is skipped twice. -/
  nodup_skipped : g.skipped.Nodup

/-! ### An accepted form -/

section Built

variable {g : DependencyGraph} (h : ofFields limits fields = .ok g)
include h

theorem nodup_names_ofFields : (fields.map Field.name).Nodup := by
  obtain ⟨hnames, hnodup, -⟩ := ofFields_eq_ok h
  exact hnames ▸ hnodup

theorem mem_skipped_ofFields {s : SkippedExpression} :
    s ∈ g.skipped ↔ ∃ f ∈ fields, f.name = s.field ∧ ∃ text, (s.role, text) ∈ f.expressions ∧
      Expression.ofText limits text = .error s.fault := by
  rw [skipped_of_collect (ofFields_eq_ok h).2.2.2.1, List.mem_filterMap]
  constructor
  · rintro ⟨⟨field, role, text⟩, hmem, hskipped⟩
    obtain ⟨rfl, rfl, hfault⟩ := skipped?_eq_some_iff.mp hskipped
    obtain ⟨f, hf, hname, htext⟩ := mem_fieldTexts.mp hmem
    exact ⟨f, hf, hname, text, htext, hfault⟩
  · rintro ⟨f, hf, hname, text, htext, hfault⟩
    exact ⟨(s.field, s.role, text), mem_fieldTexts.mpr ⟨f, hf, hname, htext⟩,
      skipped?_eq_some_iff.mpr ⟨rfl, rfl, hfault⟩⟩

theorem nodup_skipped_ofFields : g.skipped.Nodup := by
  rw [skipped_of_collect (ofFields_eq_ok h).2.2.2.1]
  refine List.pairwise_filterMap.mpr ?_
  refine (List.pairwise_map.mp (nodup_fieldTexts (nodup_names_ofFields h))).imp ?_
  rintro ⟨a, r, t⟩ ⟨a', r', t'⟩ hne s hs s' hs' rfl
  -- a skipped expression tells its field and its role
  obtain ⟨rfl, rfl, -⟩ := skipped?_eq_some_iff.mp hs
  obtain ⟨rfl, rfl, -⟩ := skipped?_eq_some_iff.mp hs'
  exact hne rfl

/-- **The graph of a form shows its references**, and nothing else. -/
theorem depicts_ofFields : Depicts limits fields g where
  mem_edges _ := mem_edges_ofFields h
  nodup_edges := nodup_of_collect (ofFields_eq_ok h).2.2.2.1 (nodup_fieldTexts (nodup_names_ofFields h))
  mem_precedents _ _ := mem_precedents_ofFields h
  nodup_precedents _ := nodup_eraseDups _
  mem_dependents _ _ := mem_dependents_iff_mem_precedents.trans (mem_precedents_ofFields h)
  nodup_dependents _ := nodup_eraseDups _
  mem_skipped _ := mem_skipped_ofFields h
  nodup_skipped := nodup_skipped_ofFields h

/-- To precede in the graph is to be referred to in the form. -/
theorem precedes_ofFields : g.Precedes = References limits fields := by
  funext a b
  exact propext (mem_precedents_ofFields h)

/-- **No field of an accepted form depends on itself.** -/
theorem not_dependsOn_self (a : String) : ¬DependsOn limits fields a a := by
  rw [DependsOn, ← precedes_ofFields h]
  exact not_transGen_of_checkAcyclic (fun _ _ hb => precedents_subset_names h hb)
    (ofFields_eq_ok h).2.2.2.2 a

end Built

/-! ### A refused form -/

theorem ofFields_of_not_nodup (limits : Limits) (h : ¬(fields.map Field.name).Nodup) :
    ∃ name, ofFields limits fields = .error (.duplicateField name) := by
  cases hrepeated : firstRepeated? [] (fields.map Field.name) with
  | none => exact absurd (firstRepeated?_eq_none_iff.mp hrepeated).1 h
  | some name =>
    refine ⟨name, ?_⟩
    rw [ofFields]
    simp only [hrepeated]
    rfl

/-- **A form whose fields have different names is refused only with a cycle.** -/
theorem isCycle_of_ofFields {fault : Fault} (hnodup : (fields.map Field.name).Nodup)
    (h : ofFields limits fields = .error fault) :
    ∃ path, fault = .cycleDetected path ∧ IsCycle (References limits fields) path := by
  rw [ofFields_of_nodup hnodup] at h
  cases hcollect : collect limits (fields.map Field.name) (fieldTexts fields) with
  | error other =>
    -- an expression mentions the field that it yields something for
    rw [hcollect] at h
    obtain rfl : other = fault := Except.error.inj h
    obtain ⟨field, role, text, hmem, rfl, hyields, hmention, hname⟩ := collect_eq_error hcollect
    obtain ⟨f, hf, hfield, htext⟩ := mem_fieldTexts.mp hmem
    exact ⟨_, rfl, .single ⟨role, ⟨f, hf, hfield, text, htext, hmention⟩, ⟨f, hf, hfield⟩,
      fun _ => hyields⟩⟩
  | ok collected =>
    rw [hcollect, ok_bind] at h
    cases hcheck : (ofCollected fields collected).checkAcyclic with
    | ok _ =>
      rw [hcheck] at h
      contradiction
    | error other =>
      -- the search has found a way along the edges, which are references
      rw [hcheck] at h
      obtain rfl : other = fault := Except.error.inj h
      obtain ⟨path, rfl, hcycle⟩ := isCycle_of_checkAcyclic hcheck
      refine ⟨path, rfl, hcycle.imp ?_⟩
      intro a b hab
      obtain ⟨⟨_, _, role⟩, hedge, rfl, rfl⟩ := mem_precedents_iff.mp hab
      exact ⟨role, (mem_edges_of_collect hcollect).mp hedge⟩

theorem exists_ofFields (hnodup : (fields.map Field.name).Nodup)
    (hacyclic : ∀ a, ¬DependsOn limits fields a a) : ∃ g, ofFields limits fields = .ok g := by
  cases hgraph : ofFields limits fields with
  | ok g => exact ⟨g, rfl⟩
  | error fault =>
    obtain ⟨path, -, hcycle⟩ := isCycle_of_ofFields hnodup hgraph
    obtain ⟨a, ha⟩ := hcycle.exists_transGen
    exact absurd ha (hacyclic a)

/-! ### Both together -/

/-- **Which forms have a graph, and what it shows.** A form is refused for a repeated name exactly if two
of its fields share one. Otherwise it is accepted exactly if no field depends on itself. The graph of an
accepted form shows its references and nothing else; the way reported for a refused one is a cycle of
references. Nothing else can go wrong. -/
theorem ofFields_acceptance (limits : Limits) (fields : List Field) :
    ((∃ name, ofFields limits fields = .error (.duplicateField name)) ↔
        ¬(fields.map Field.name).Nodup) ∧
      ((fields.map Field.name).Nodup →
        ((∃ g, ofFields limits fields = .ok g) ↔ ∀ a, ¬DependsOn limits fields a a)) ∧
      (∀ g, ofFields limits fields = .ok g → Depicts limits fields g) ∧
      (∀ path, ofFields limits fields = .error (.cycleDetected path) →
        IsCycle (References limits fields) path) ∧
      ∀ fault, ofFields limits fields = .error fault →
        (∃ name, fault = .duplicateField name) ∨ ∃ path, fault = .cycleDetected path := by
  refine ⟨⟨?_, ofFields_of_not_nodup limits⟩, ?_, fun g => depicts_ofFields, ?_, ?_⟩
  · rintro ⟨name, hduplicate⟩ hnodup
    -- names that differ leave only cycles to be refused for
    obtain ⟨path, hfault, -⟩ := isCycle_of_ofFields hnodup hduplicate
    contradiction
  · intro hnodup
    exact ⟨fun ⟨g, hg⟩ => not_dependsOn_self hg, exists_ofFields hnodup⟩
  · intro path hcircular
    by_cases hnodup : (fields.map Field.name).Nodup
    · obtain ⟨path', hfault, hcycle⟩ := isCycle_of_ofFields hnodup hcircular
      obtain rfl := Fault.cycleDetected.inj hfault
      exact hcycle
    · -- a repeated name would have been reported instead
      obtain ⟨name, hduplicate⟩ := ofFields_of_not_nodup limits hnodup
      rw [hcircular] at hduplicate
      exact absurd (Except.error.inj hduplicate) (by simp)
  · intro fault hfault
    by_cases hnodup : (fields.map Field.name).Nodup
    · obtain ⟨path, rfl, -⟩ := isCycle_of_ofFields hnodup hfault
      exact Or.inr ⟨path, rfl⟩
    · obtain ⟨name, hduplicate⟩ := ofFields_of_not_nodup limits hnodup
      rw [hfault] at hduplicate
      exact Or.inl ⟨name, Except.error.inj hduplicate⟩

/-! ### A circular form

Two prices, each of which is got from the other. -/

/-- A gross price with a formula over the net price, whose options come from the gross price. -/
def circular : List Field :=
  [{ name := "gross", type := .number, formula := some ⟨"net", .arithmetic⟩ },
    { name := "net", type := .number, dynamicOptions := some "gross" }]

/-- A text that consists of a name, with or without its mark, spells a variable. -/
theorem ofText_lone {text name : String} {lexeme : Lexeme}
    (hlexeme : lexeme = .name name ∨ lexeme = .var name) (hscreen : Screen.check {} text.toList = .ok ())
    {rest : Nat} (hlexemes : Lexemes.ofChars (Text.trim text.toList) =
      ⟨[⟨lexeme, 0⟩], .finished rest⟩) : Expression.ofText {} text = .ok (.var name) := by
  rw [Expression.ofText, Expression.ofChars, hscreen, hlexemes]
  -- the reader recurses on the lexemes and the level, which evaluation alone does not open
  rcases hlexeme with rfl | rfl <;>
    simp [Expression.ofLexemes, Expression.Rules.chain, Expression.Rules.chainFrom,
      Expression.Rules.operand, Expression.Rules.signed, Expression.Rules.primary, Lexemes.pass,
      bind, Except.bind, pure, Except.pure]

/-- What has been collected when the search for a cycle begins. -/
def circularGraph : DependencyGraph where
  names := ["gross", "net"]
  calculated := ["gross"]
  edges := [⟨"gross", "net", .formula⟩, ⟨"net", "gross", .options⟩]
  skipped := []

theorem collect_circular : collect {} (circular.map Field.name) (fieldTexts circular) =
    .ok (circularGraph.edges, circularGraph.skipped) := by
  have hnet : Lexemes.ofChars (Text.trim "net".toList) = ⟨[⟨.name "net", 0⟩], .finished 3⟩ := by
    decide +kernel
  have hgross : Lexemes.ofChars (Text.trim "gross".toList) =
      ⟨[⟨.name "gross", 0⟩], .finished 5⟩ := by
    decide +kernel
  have hnames (name : String) : (Expression.var name).variableNames = [name] := rfl
  have htexts : fieldTexts circular =
      [("gross", .formula, "net"), ("net", .options, "gross")] := rfl
  rw [htexts]
  simp [collect, ofText_lone (Or.inl rfl) (by decide +kernel) hnet,
    ofText_lone (Or.inl rfl) (by decide +kernel) hgross, edgesOf, hnames, Role.yields, circularGraph,
    circular]

theorem checkAcyclic_circularGraph :
    circularGraph.checkAcyclic = .error (.cycleDetected ["gross", "net", "gross"]) := by
  have hnames : circularGraph.names = ["gross", "net"] := rfl
  have hgross : circularGraph.precedents "gross" = ["net"] := rfl
  have hnet : circularGraph.precedents "net" = ["gross"] := rfl
  simp [checkAcyclic, follow, hnames, hgross, hnet]

/-- The circular form is refused with the way from the gross price over the net price back. -/
theorem ofFields_acceptance_circular :
    ofFields {} circular = .error (.cycleDetected ["gross", "net", "gross"]) ∧
      IsCycle (References {} circular) ["gross", "net", "gross"] := by
  have hcircular : ofFields {} circular = .error (.cycleDetected ["gross", "net", "gross"]) := by
    rw [ofFields_of_nodup (by decide), collect_circular, ok_bind]
    change (circularGraph.checkAcyclic >>= _) = _
    rw [checkAcyclic_circularGraph]
    rfl
  exact ⟨hcircular, (ofFields_acceptance {} circular).2.2.2.1 _ hcircular⟩

end DependencyGraph

end Formulary
