import Formulary.Proofs.Dependency.References
import Formulary.Proofs.Outcome
import Mathlib.Data.List.Nodup

/-!
# The edges of a form's graph

What `DependencyGraph.ofFields` builds when it succeeds, said without the way it is built:

* `ofFields_eq_ok` takes the construction apart;
* `mem_edges_ofFields` says which edges there are: one for every reference among the fields;
* `not_mentions_self` says that no formula and no expression for options mentions its own field.

The two directions of the edges mirror each other in every graph, built or not
(`mem_dependents_iff_mem_precedents`).

What the texts of a form contribute is followed text by text: `collect_cons_eq_ok` and
`collect_cons_eq_error` say all that the first of them can do.
-/

namespace Formulary.DependencyGraph

variable {limits : Limits} {fields : List Field} {g : DependencyGraph}

/-! ### The two directions -/

theorem mem_precedents_iff {a b : String} :
    b ∈ g.precedents a ↔ ∃ edge ∈ g.edges, edge.field = a ∧ edge.dependsOn = b := by
  simp [precedents, and_assoc]

theorem mem_dependents_iff {a b : String} :
    a ∈ g.dependents b ↔ ∃ edge ∈ g.edges, edge.field = a ∧ edge.dependsOn = b := by
  simp [dependents, and_assoc, and_comm]

/-- The two directions of the edges mirror each other. -/
theorem mem_dependents_iff_mem_precedents {a b : String} :
    a ∈ g.dependents b ↔ b ∈ g.precedents a := by
  rw [mem_dependents_iff, mem_precedents_iff]

theorem nodup_eraseDups (names : List String) : names.eraseDups.Nodup := by
  induction h : names.length using Nat.strongRecOn generalizing names with
  | ind count ih =>
    cases names with
    | nil => simp
    | cons name rest =>
      -- what is left of the rest is without `name`, and no longer than the rest
      have hshorter : (rest.filter fun other => !other == name).length < count := by
        rw [← h]
        exact Nat.lt_succ_of_le (List.length_filter_le _ _)
      rw [List.eraseDups_cons, List.nodup_cons]
      exact ⟨by simp, ih _ hshorter _ rfl⟩

theorem nodup_precedents (a : String) : (g.precedents a).Nodup := nodup_eraseDups _

theorem nodup_dependents (a : String) : (g.dependents a).Nodup := nodup_eraseDups _

/-! ### Names -/

theorem firstRepeated?_eq_none_iff {seen names : List String} :
    firstRepeated? seen names = none ↔ names.Nodup ∧ ∀ name ∈ names, name ∉ seen := by
  induction names generalizing seen with
  | nil => simp [firstRepeated?]
  | cons name rest ih =>
    rw [firstRepeated?]
    by_cases hseen : name ∈ seen
    · simp [hseen]
    · rw [if_neg hseen, ih, List.nodup_cons, List.forall_mem_cons]
      -- `name` may not come again: it has been seen now
      constructor
      · rintro ⟨hnodup, hrest⟩
        exact ⟨⟨fun hmem => hrest name hmem List.mem_cons_self, hnodup⟩, hseen,
          fun other hother hmem => hrest other hother (List.mem_cons_of_mem _ hmem)⟩
      · rintro ⟨⟨hname, hnodup⟩, -, hrest⟩
        refine ⟨hnodup, fun other hother hmem => ?_⟩
        rcases List.mem_cons.mp hmem with rfl | hmem
        · exact hname hother
        · exact hrest other hother hmem

/-! ### Collecting -/

/-- An expression yields an edge for each field that it mentions besides its own. -/
theorem edgesOf_eq_ok {names : List String} {field : String} {role : Role} {e : Expression}
    {found : List Edge} (h : edgesOf names field role e = .ok found) :
    (role.yields = true → field ∈ e.mentions → field ∉ names) ∧ found.Nodup ∧
      ∀ edge, edge ∈ found ↔ (edge.field = field ∧ edge.role = role ∧
        edge.dependsOn ∈ e.mentions) ∧ edge.dependsOn ∈ names ∧ edge.dependsOn ≠ edge.field := by
  rw [edgesOf] at h
  split at h
  · contradiction
  · next hself =>
    obtain rfl := Except.ok.inj h
    refine ⟨?_, ?_, ?_⟩
    · intro hyields hmention hname
      exact hself ⟨hyields, by simpa using ⟨hmention, hname⟩⟩
    · -- the names of an expression are listed once each
      have hmentioned : e.variableNames.Nodup := NameMap.nodup_names _
      refine ((hmentioned.filter _).filter _).map ?_
      intro a b hab
      exact congrArg Edge.dependsOn hab
    · -- both lists are filtered by what is an edge: a name of a field, and not of this one
      rintro ⟨a, b, r⟩
      simp only [List.mem_map, List.mem_filter, Expression.mem_variableNames, decide_eq_true_eq,
        Edge.mk.injEq]
      constructor
      · rintro ⟨name, ⟨⟨hmention, hname⟩, hne⟩, rfl, rfl, rfl⟩
        exact ⟨⟨rfl, rfl, hmention⟩, hname, hne⟩
      · rintro ⟨⟨rfl, rfl, hmention⟩, hname, hne⟩
        exact ⟨b, ⟨⟨hmention, hname⟩, hne⟩, rfl, rfl, rfl⟩

/-- An expression is refused for one reason only: it mentions the field that it yields something for. -/
theorem edgesOf_eq_error {names : List String} {field : String} {role : Role} {e : Expression}
    {fault : Fault} (h : edgesOf names field role e = .error fault) :
    fault = .cycleDetected [field, field] ∧ role.yields = true ∧ field ∈ e.mentions ∧
      field ∈ names := by
  rw [edgesOf] at h
  split at h
  · next hself =>
    obtain ⟨hyields, hmentioned⟩ := hself
    obtain ⟨hmention, hname⟩ : field ∈ e.mentions ∧ field ∈ names := by simpa using hmentioned
    exact ⟨(Except.error.inj h).symm, hyields, hmention, hname⟩
  · contradiction

/-- The trace that a text leaves if it cannot be read. -/
def skipped? (limits : Limits) : String × Role × String → Option SkippedExpression
  | (field, role, text) =>
    match Expression.ofText limits text with
    | .error fault => some ⟨field, role, fault⟩
    | .ok _ => none

theorem skipped?_eq_some_iff {field text : String} {role : Role} {s : SkippedExpression} :
    skipped? limits (field, role, text) = some s ↔
      s.field = field ∧ s.role = role ∧ Expression.ofText limits text = .error s.fault := by
  obtain ⟨a, r, fault⟩ := s
  rw [skipped?]
  cases Expression.ofText limits text <;> simp [eq_comm]

/-- The first text contributes the edges of the expression that it spells, or none if it cannot be
read. -/
theorem collect_cons_eq_ok {names : List String} {field text : String} {role : Role}
    {rest : List (String × Role × String)} {edges : List Edge} {skipped : List SkippedExpression}
    (h : collect limits names ((field, role, text) :: rest) = .ok (edges, skipped)) :
    ∃ found others left, collect limits names rest = .ok (others, left) ∧ edges = found ++ others ∧
      skipped = (skipped? limits (field, role, text)).toList ++ left ∧
      (role.yields = true → TextMentions limits text field → field ∉ names) ∧ found.Nodup ∧
      ∀ edge, edge ∈ found ↔ (edge.field = field ∧ edge.role = role ∧
        TextMentions limits text edge.dependsOn) ∧
          edge.dependsOn ∈ names ∧ edge.dependsOn ≠ edge.field := by
  rw [collect] at h
  rw [skipped?]
  cases hread : Expression.ofText limits text with
  | error fault =>
    rw [hread] at h
    obtain ⟨⟨others, left⟩, hrest, h⟩ := bind_eq_ok_iff.mp h
    obtain ⟨rfl, rfl⟩ := Prod.mk.inj (Except.ok.inj h)
    -- a text that cannot be read mentions nothing, and leaves a trace instead
    exact ⟨[], others, left, hrest, rfl, rfl, by simp [TextMentions, hread], List.nodup_nil,
      by simp [TextMentions, hread]⟩
  | ok e =>
    rw [hread] at h
    obtain ⟨found, hfound, h⟩ := bind_eq_ok_iff.mp h
    obtain ⟨⟨others, left⟩, hrest, h⟩ := bind_eq_ok_iff.mp h
    obtain ⟨rfl, rfl⟩ := Prod.mk.inj (Except.ok.inj h)
    -- a text that can be read mentions what its expression does
    obtain ⟨hself, hnodup, hedges⟩ := edgesOf_eq_ok hfound
    refine ⟨found, others, left, hrest, rfl, rfl, ?_, hnodup, ?_⟩
    · simpa [TextMentions, hread] using hself
    · simpa [TextMentions, hread] using hedges

/-- If the texts are refused, the others are, or the first is. -/
theorem collect_cons_eq_error {names : List String} {field text : String} {role : Role}
    {rest : List (String × Role × String)} {fault : Fault}
    (h : collect limits names ((field, role, text) :: rest) = .error fault) :
    collect limits names rest = .error fault ∨
      (fault = .cycleDetected [field, field] ∧ role.yields = true ∧
        TextMentions limits text field ∧ field ∈ names) := by
  rw [collect] at h
  cases hread : Expression.ofText limits text with
  | error _ =>
    rw [hread] at h
    cases hrest : collect limits names rest with
    | error other => rw [hrest] at h; exact Or.inl h
    | ok gathered => rw [hrest] at h; contradiction
  | ok e =>
    simp only [hread] at h
    cases hfound : edgesOf names field role e with
    | error other =>
      rw [hfound] at h
      obtain rfl : other = fault := Except.error.inj h
      -- a fault of the first text comes before any of the others
      obtain ⟨hfault, hyields, hmention, hname⟩ := edgesOf_eq_error hfound
      exact Or.inr ⟨hfault, hyields, ⟨e, hread, hmention⟩, hname⟩
    | ok found =>
      rw [hfound] at h
      cases hrest : collect limits names rest with
      | error other => rw [hrest] at h; exact Or.inl h
      | ok gathered => rw [hrest] at h; contradiction

/-- The texts together contribute an edge for each field that one of them mentions besides its own. -/
theorem collect_eq_ok {names : List String} {texts : List (String × Role × String)}
    {edges : List Edge} {skipped : List SkippedExpression}
    (h : collect limits names texts = .ok (edges, skipped)) :
    (∀ field role text, (field, role, text) ∈ texts → role.yields = true →
        TextMentions limits text field → field ∉ names) ∧
      ∀ edge, edge ∈ edges ↔ (∃ text, (edge.field, edge.role, text) ∈ texts ∧
        TextMentions limits text edge.dependsOn) ∧
          edge.dependsOn ∈ names ∧ edge.dependsOn ≠ edge.field := by
  induction texts generalizing edges skipped with
  | nil =>
    obtain ⟨rfl, rfl⟩ := Prod.mk.inj (Except.ok.inj h)
    simp
  | cons first rest ih =>
    obtain ⟨field, role, text⟩ := first
    obtain ⟨found, others, left, hrest, rfl, -, hself, -, hfound⟩ := collect_cons_eq_ok h
    obtain ⟨hselves, hothers⟩ := ih hrest
    constructor
    · intro a r t hmem
      rcases List.mem_cons.mp hmem with heq | hmem
      · obtain ⟨rfl, rfl, rfl⟩ : a = field ∧ r = role ∧ t = text := by simpa using heq
        exact hself
      · exact hselves a r t hmem
    · intro edge
      -- an edge comes from the first text or from one of the others
      have htexts : (∃ t, (edge.field, edge.role, t) ∈ (field, role, text) :: rest ∧
          TextMentions limits t edge.dependsOn) ↔
          (edge.field = field ∧ edge.role = role ∧ TextMentions limits text edge.dependsOn) ∨
            ∃ t, (edge.field, edge.role, t) ∈ rest ∧ TextMentions limits t edge.dependsOn := by
        constructor
        · rintro ⟨t, hmem, hmention⟩
          rcases List.mem_cons.mp hmem with heq | hmem
          · obtain ⟨hfield, hrole, rfl⟩ : edge.field = field ∧ edge.role = role ∧ t = text := by
              simpa using heq
            exact Or.inl ⟨hfield, hrole, hmention⟩
          · exact Or.inr ⟨t, hmem, hmention⟩
        · rintro (⟨rfl, rfl, hmention⟩ | ⟨t, hmem, hmention⟩)
          · exact ⟨text, List.mem_cons_self, hmention⟩
          · exact ⟨t, List.mem_cons_of_mem _ hmem, hmention⟩
      rw [List.mem_append, hfound, hothers, htexts, or_and_right]

/-- If no field has two texts in one role, no edge is contributed twice. -/
theorem nodup_of_collect {names : List String} {texts : List (String × Role × String)}
    {edges : List Edge} {skipped : List SkippedExpression}
    (h : collect limits names texts = .ok (edges, skipped))
    (htexts : (texts.map fun t => (t.1, t.2.1)).Nodup) : edges.Nodup := by
  induction texts generalizing edges skipped with
  | nil =>
    obtain ⟨rfl, -⟩ := Prod.mk.inj (Except.ok.inj h)
    exact List.nodup_nil
  | cons first rest ih =>
    obtain ⟨field, role, text⟩ := first
    obtain ⟨found, others, left, hrest, rfl, -, -, hfound, hmem⟩ := collect_cons_eq_ok h
    obtain ⟨hfresh, htexts⟩ := List.nodup_cons.mp htexts
    refine List.nodup_append.mpr ⟨hfound, ih hrest htexts, ?_⟩
    rintro edge hedge _ hother rfl
    -- an edge of both would come from two texts of one field in one role
    obtain ⟨⟨rfl, rfl, -⟩, -⟩ := (hmem edge).mp hedge
    obtain ⟨⟨other, hother, -⟩, -⟩ := ((collect_eq_ok hrest).2 edge).mp hother
    exact hfresh (List.mem_map.mpr ⟨_, hother, rfl⟩)

/-- The texts that cannot be read are noted, each once and in their order. -/
theorem skipped_of_collect {names : List String} {texts : List (String × Role × String)}
    {edges : List Edge} {skipped : List SkippedExpression}
    (h : collect limits names texts = .ok (edges, skipped)) :
    skipped = texts.filterMap (skipped? limits) := by
  induction texts generalizing edges skipped with
  | nil =>
    obtain ⟨-, rfl⟩ := Prod.mk.inj (Except.ok.inj h)
    rfl
  | cons first rest ih =>
    obtain ⟨field, role, text⟩ := first
    obtain ⟨found, others, left, hrest, -, rfl, -⟩ := collect_cons_eq_ok h
    rw [List.filterMap_cons, ih hrest]
    cases skipped? limits (field, role, text) <;> rfl

/-- Texts are refused only because one of them mentions the field that it yields something for. -/
theorem collect_eq_error {names : List String} {texts : List (String × Role × String)} {fault : Fault}
    (h : collect limits names texts = .error fault) :
    ∃ field role text, (field, role, text) ∈ texts ∧ fault = .cycleDetected [field, field] ∧
      role.yields = true ∧ TextMentions limits text field ∧ field ∈ names := by
  induction texts with
  | nil => contradiction
  | cons first rest ih =>
    obtain ⟨field, role, text⟩ := first
    rcases collect_cons_eq_error h with hrest | hfirst
    · obtain ⟨a, r, t, hmem, hrefused⟩ := ih hrest
      exact ⟨a, r, t, List.mem_cons_of_mem _ hmem, hrefused⟩
    · exact ⟨field, role, text, List.mem_cons_self, hfirst⟩

/-! ### The texts of a form -/

/-- The texts of all fields, each with its field and its role. -/
def fieldTexts (fields : List Field) : List (String × Role × String) :=
  fields.flatMap fun f => f.expressions.map fun (role, text) => (f.name, role, text)

theorem mem_fieldTexts {name text : String} {role : Role} :
    (name, role, text) ∈ fieldTexts fields ↔
      ∃ f ∈ fields, f.name = name ∧ (role, text) ∈ f.expressions := by
  simp only [fieldTexts, List.mem_flatMap, List.mem_map, Prod.mk.injEq, Prod.exists]
  constructor
  · rintro ⟨f, hf, r, t, hmem, hname, rfl, rfl⟩
    exact ⟨f, hf, hname, hmem⟩
  · rintro ⟨f, hf, hname, hmem⟩
    exact ⟨f, hf, role, text, hmem, hname, rfl, rfl⟩

/-- A field has at most one expression in each role. -/
theorem nodup_roles (f : Field) : (f.expressions.map (·.1)).Nodup := by
  obtain ⟨name, type, formula, options, conditional, crossField⟩ := f
  -- there are four places for an expression in a field, and each has a role of its own
  cases formula <;> cases options <;> cases conditional <;> cases crossField <;>
    simp [Field.expressions, Field.formulaText?]

/-- In a form whose fields have different names, no field has two texts in one role. -/
theorem nodup_fieldTexts (h : (fields.map Field.name).Nodup) :
    ((fieldTexts fields).map fun t => (t.1, t.2.1)).Nodup := by
  rw [fieldTexts, List.map_flatMap, List.nodup_flatMap]
  constructor
  · intro f _
    have hroles := (nodup_roles f).map fun a b (hab : (f.name, a) = (f.name, b)) =>
      (Prod.mk.inj hab).2
    simpa [List.map_map, Function.comp_def] using hroles
  · refine (List.pairwise_map.mp h).imp ?_
    intro f k hne entry hf hk
    -- an entry tells the name of its field
    have hname {f : Field} (hmem : entry ∈ (f.expressions.map fun (role, text) =>
        (f.name, role, text)).map fun t => (t.1, t.2.1)) : entry.1 = f.name := by
      rw [List.map_map, List.mem_map] at hmem
      obtain ⟨_, -, rfl⟩ := hmem
      rfl
    exact hne ((hname hf).symm.trans (hname hk))

/-- What the texts of a form contribute are its references, unless there are references of fields to
themselves. -/
theorem mem_edges_of_collect {edges : List Edge} {skipped : List SkippedExpression}
    (h : collect limits (fields.map Field.name) (fieldTexts fields) = .ok (edges, skipped))
    {edge : Edge} : edge ∈ edges ↔ IsReference limits fields edge := by
  obtain ⟨hself, hedges⟩ := collect_eq_ok h
  rw [hedges]
  constructor
  · rintro ⟨⟨text, htext, hmention⟩, hname, hne⟩
    obtain ⟨f, hf, hfield, htext⟩ := mem_fieldTexts.mp htext
    exact ⟨⟨f, hf, hfield, text, htext, hmention⟩, List.mem_map.mp hname, fun heq => absurd heq hne⟩
  · rintro ⟨⟨f, hf, hfield, text, htext, hmention⟩, hname, hyields⟩
    have hmem : (edge.field, edge.role, text) ∈ fieldTexts fields :=
      mem_fieldTexts.mpr ⟨f, hf, hfield, htext⟩
    refine ⟨⟨text, hmem, hmention⟩, List.mem_map.mpr hname, fun heq => ?_⟩
    -- a reference of a field to itself would have been refused
    have hown := hself _ _ text hmem (hyields heq) (heq ▸ hmention)
    exact hown (List.mem_map.mpr ⟨f, hf, hfield⟩)

/-! ### The graph of a form -/

/-- The graph of a form with what has been collected from its texts. -/
def ofCollected (fields : List Field) (collected : List Edge × List SkippedExpression) :
    DependencyGraph where
  names := fields.map Field.name
  calculated := (fields.filter Field.isCalculated).map Field.name
  edges := collected.1
  skipped := collected.2

/-- A form whose fields have different names has a graph if its texts can be collected and the graph
passes the check. -/
theorem ofFields_of_nodup (hnodup : (fields.map Field.name).Nodup) :
    ofFields limits fields = collect limits (fields.map Field.name) (fieldTexts fields) >>=
      fun collected => (ofCollected fields collected).checkAcyclic >>=
        fun _ => .ok (ofCollected fields collected) := by
  have hrepeated : firstRepeated? [] (fields.map Field.name) = none :=
    firstRepeated?_eq_none_iff.mpr ⟨hnodup, by simp⟩
  rw [ofFields]
  simp only [hrepeated]
  rfl

/-- What a successful construction consists of. -/
theorem ofFields_eq_ok (h : ofFields limits fields = .ok g) :
    g.names = fields.map Field.name ∧ g.names.Nodup ∧
      g.calculated = (fields.filter Field.isCalculated).map Field.name ∧
      collect limits (fields.map Field.name) (fieldTexts fields) = .ok (g.edges, g.skipped) ∧
      g.checkAcyclic = .ok () := by
  rw [ofFields] at h
  cases hrepeated : firstRepeated? [] (fields.map Field.name) with
  | some name => simp only [hrepeated] at h; contradiction
  | none =>
    simp only [hrepeated] at h
    obtain ⟨⟨edges, skipped⟩, hcollect, h⟩ := bind_eq_ok_iff.mp h
    obtain ⟨⟨⟩, hacyclic, h⟩ := bind_eq_ok_iff.mp h
    obtain rfl := Except.ok.inj h
    exact ⟨rfl, (firstRepeated?_eq_none_iff.mp hrepeated).1, rfl, hcollect, hacyclic⟩

variable (h : ofFields limits fields = .ok g)
include h

theorem mem_names_ofFields {name : String} : name ∈ g.names ↔ ∃ f ∈ fields, f.name = name := by
  rw [(ofFields_eq_ok h).1, List.mem_map]

theorem mem_calculated_ofFields {name : String} :
    name ∈ g.calculated ↔ ∃ f ∈ fields, f.isCalculated = true ∧ f.name = name := by
  rw [(ofFields_eq_ok h).2.2.1, List.mem_map]
  simp only [List.mem_filter, and_assoc]

/-- Different fields have different names. -/
theorem eq_of_name_eq {f k : Field} (hf : f ∈ fields) (hk : k ∈ fields) (hname : f.name = k.name) :
    f = k := by
  have hnodup : (fields.map Field.name).Nodup := by
    rw [← (ofFields_eq_ok h).1]
    exact (ofFields_eq_ok h).2.1
  exact List.inj_on_of_nodup_map hnodup hf hk hname

/-- **The edges of a form** are the references among its fields. -/
theorem mem_edges_ofFields {edge : Edge} : edge ∈ g.edges ↔ IsReference limits fields edge :=
  mem_edges_of_collect (ofFields_eq_ok h).2.2.2.1

/-- A field depends directly on the fields that it refers to. -/
theorem mem_precedents_ofFields {a b : String} :
    b ∈ g.precedents a ↔ References limits fields a b := by
  rw [mem_precedents_iff]
  constructor
  · rintro ⟨⟨_, _, role⟩, hedge, rfl, rfl⟩
    exact ⟨role, (mem_edges_ofFields h).mp hedge⟩
  · rintro ⟨role, href⟩
    exact ⟨_, (mem_edges_ofFields h).mpr href, rfl, rfl⟩

/-- What a field depends on is a field. -/
theorem precedents_subset_names {a b : String} (hmem : b ∈ g.precedents a) : b ∈ g.names :=
  (mem_names_ofFields h).mpr ((mem_precedents_ofFields h).mp hmem).exists_fields.2

/-- An expression that yields something and can be read does not mention its own field. -/
theorem not_mentions_self {f : Field} {role : Role} {text : String} (hf : f ∈ fields)
    (hyields : role.yields = true) (htext : (role, text) ∈ f.expressions) :
    ¬TextMentions limits text f.name := by
  intro hmention
  have hmem : (f.name, role, text) ∈ fieldTexts fields := mem_fieldTexts.mpr ⟨f, hf, rfl, htext⟩
  have hself := (collect_eq_ok (ofFields_eq_ok h).2.2.2.1).1 _ _ _ hmem hyields hmention
  exact hself (List.mem_map.mpr ⟨f, hf, rfl⟩)

/-- A formula that can be read does not mention its own field. -/
theorem formula_not_mentions_self {f : Field} {text : String} (hf : f ∈ fields)
    (htext : f.formulaText? = some text) : ¬TextMentions limits text f.name := by
  have hmem : (Role.formula, text) ∈ f.expressions := by simp [Field.expressions, htext]
  exact not_mentions_self h hf rfl hmem

/-- A field depends on every other field that its formula mentions. -/
theorem mem_precedents_of_formula {f : Field} {text name : String} (hf : f ∈ fields)
    (htext : f.formulaText? = some text) (hmention : TextMentions limits text name)
    (hname : name ∈ g.names) : name ∈ g.precedents f.name := by
  refine (mem_precedents_ofFields h).mpr ⟨.formula, ⟨f, hf, rfl, text, ?_, hmention⟩,
    (mem_names_ofFields h).mp hname, fun _ => rfl⟩
  simp [Field.expressions, htext]

end Formulary.DependencyGraph
