import Formulary.Proofs.Dependency.Ordering
import Formulary.Recalculation
import Mathlib.Data.List.Nodup

/-!
# A pass over the fields

What a recalculation leaves behind, said of the data that it ends with and not of the steps that lead
there. Data are **settled** if every field passed over holds what its formula yields on these very data,
or, if its formula fails on them, what it held before or the default of its type
(`RecalcRules.Settled`).

* `step_get?`, `step_recomputed` and `step_failures` say all that computing one field does.
* `settled_iff_eq_foldl`: a pass in which no formula reads its own field or a later one ends with
  settled data, and no other data are settled. So the end of a pass does not depend on its order.
* `recomputed_foldl` and `failures_foldl`: the same end tells which formulas succeeded and with which
  fault the others failed, and together with the beginning it tells how many fields took a default
  (`defaulted_foldl`).
-/

namespace Formulary

/-- The field of a name, the last one if there are several. -/
def Field.named? (fields : List Field) (name : String) : Option Field :=
  fields.reverse.find? fun f => f.name = name

theorem Field.name_of_named? {fields : List Field} {name : String} {f : Field}
    (h : named? fields name = some f) : f ∈ fields ∧ f.name = name :=
  ⟨List.mem_reverse.mp (List.mem_of_find?_eq_some h), by simpa using List.find?_some h⟩

/-- In a form whose fields have different names, a name stands for the field that has it. -/
theorem Field.named?_eq_some_iff {fields : List Field} (hnodup : (fields.map Field.name).Nodup)
    {name : String} {f : Field} : named? fields name = some f ↔ f ∈ fields ∧ f.name = name := by
  refine ⟨name_of_named?, ?_⟩
  rintro ⟨hf, rfl⟩
  cases hfind : named? fields f.name with
  | none =>
    have hnone := List.find?_eq_none.mp hfind f (List.mem_reverse.mpr hf)
    exact absurd (decide_eq_true rfl) hnone
  | some k =>
    obtain ⟨hk, hname⟩ := name_of_named? hfind
    rw [List.inj_on_of_nodup_map hnodup hk hf hname]

namespace RecalcRules

variable {rules : RecalcRules} {fields : List Field}

/-- The text of the formula of a name. -/
def formulaOf? (fields : List Field) (name : String) : Option String :=
  (Field.named? fields name).bind Field.formulaText?

/-- What the formula of a name comes to on some data. -/
def outcome? (rules : RecalcRules) (fields : List Field) (data : FormData) (name : String) :
    Option (Except Fault Value) :=
  (formulaOf? fields name).map (rules.compute data)

/-- What a field without a value takes when its formula fails. -/
def fallback? (rules : RecalcRules) (fields : List Field) (name : String) : Option Value :=
  if rules.defaultOnFailure then (Field.named? fields name).map fun f => f.type.defaultValue else none

/-- What a field passed over holds in the end, given the data at the end and before. -/
def settledValue? (rules : RecalcRules) (fields : List Field) (before after : FormData)
    (name : String) : Option Value :=
  match rules.outcome? fields after name with
  | none => before.get? name
  | some (.ok v) => some v
  | some (.error _) => (before.get? name).or (rules.fallback? fields name)

/-- Data in which every field passed over is settled, and all others are as they were before. -/
def Settled (rules : RecalcRules) (fields : List Field) (order : List String)
    (before after : FormData) : Prop :=
  ∀ name, after.get? name =
    if name ∈ order then rules.settledValue? fields before after name else before.get? name

/-- The formula of the first name mentions the second. -/
def Reads (rules : RecalcRules) (fields : List Field) (name other : String) : Prop :=
  ∃ text, formulaOf? fields name = some text ∧ TextMentions rules.limits text other

/-- No formula reads its own field or a later one, and no field occurs twice. -/
def InOrder (rules : RecalcRules) (fields : List Field) : List String → Prop
  | [] => True
  | name :: later =>
    name ∉ later ∧ (∀ other ∈ name :: later, ¬rules.Reads fields name other) ∧
      rules.InOrder fields later

/-! ### What a formula depends on -/

/-- A formula comes to the same on data that agree on what it mentions. -/
theorem compute_congr {text : String} {data other : FormData}
    (h : ∀ name, TextMentions rules.limits text name → data.get? name = other.get? name) :
    rules.compute data text = rules.compute other text := by
  -- the rules are the same, so the contexts differ in their data only
  have hsettings : Context.SameSettings { data, registry := rules.registry, now := rules.now }
      { data := other, registry := rules.registry, now := rules.now } := ⟨⟨rfl, rfl⟩, rfl⟩
  refine Context.evaluateText_congr hsettings fun name hname => ?_
  rw [Context.get?, Context.get?, h name hname]

theorem outcome?_congr {name : String} {data other : FormData}
    (h : ∀ b, rules.Reads fields name b → data.get? b = other.get? b) :
    rules.outcome? fields data name = rules.outcome? fields other name := by
  rw [outcome?, outcome?]
  cases htext : formulaOf? fields name with
  | none => rfl
  | some text => exact congrArg some (compute_congr fun b hb => h b ⟨text, htext, hb⟩)

theorem settledValue?_congr {name : String} {before before' after after' : FormData}
    (hbefore : before.get? name = before'.get? name)
    (hafter : ∀ b, rules.Reads fields name b → after.get? b = after'.get? b) :
    rules.settledValue? fields before after name = rules.settledValue? fields before' after' name := by
  rw [settledValue?, settledValue?, outcome?_congr hafter, hbefore]

/-! ### One step -/

/-- All that computing a field can do. -/
theorem step_cases (rules : RecalcRules) (fields : List Field) (r : Recalculated) (name : String) :
    (rules.outcome? fields r.data name = none ∧ rules.step fields r name = r) ∨
      (∃ f v, Field.named? fields name = some f ∧
        rules.outcome? fields r.data name = some (.ok v) ∧
          rules.step fields r name = r.succeed f v) ∨
      ∃ f fault, Field.named? fields name = some f ∧
        rules.outcome? fields r.data name = some (.error fault) ∧
          rules.step fields r name = r.fail rules.defaultOnFailure f fault := by
  rw [outcome?, formulaOf?, step]
  cases hnamed : Field.named? fields name with
  -- a name without a field, and a field without a formula, are passed over
  | none =>
    rw [Field.named?] at hnamed
    exact Or.inl ⟨rfl, by rw [hnamed]⟩
  | some f =>
    have hfind := hnamed
    rw [Field.named?] at hfind
    cases htext : f.formulaText? with
    | none => exact Or.inl ⟨by simp [htext], by simp only [hfind, htext]⟩
    | some text =>
      right
      cases hcompute : rules.compute r.data text with
      | ok v =>
        exact Or.inl ⟨f, v, rfl, by simp [htext, hcompute], by simp only [hfind, htext, hcompute]⟩
      | error fault =>
        exact Or.inr ⟨f, fault, rfl, by simp [htext, hcompute],
          by simp only [hfind, htext, hcompute]⟩

/-- A failure leaves the value of its field, or gives it the default if it has none. -/
theorem get?_fail (r : Recalculated) (useDefault : Bool) (f : Field) (fault : Fault)
    (other : String) :
    (r.fail useDefault f fault).data.get? other =
      if other = f.name then
        (r.data.get? f.name).or (if useDefault then some f.type.defaultValue else none)
      else r.data.get? other := by
  rw [Recalculated.fail, NameMap.contains]
  cases hvalue : r.data.get? f.name with
  | some v => by_cases hname : other = f.name <;> simp [hname, hvalue]
  | none =>
    -- only here does the default come in
    cases useDefault <;> by_cases hname : other = f.name <;>
      simp [hname, hvalue, NameMap.get?_insert]

/-- Computing a field changes what its name stands for and nothing else. -/
theorem step_get? (r : Recalculated) (name other : String) :
    (rules.step fields r name).data.get? other =
      if other = name then rules.settledValue? fields r.data r.data name else r.data.get? other := by
  rw [settledValue?]
  -- passed over, computed, or failed
  rcases step_cases rules fields r name with
    ⟨houtcome, hstep⟩ | ⟨f, v, hf, houtcome, hstep⟩ | ⟨f, fault, hf, houtcome, hstep⟩
  · rw [hstep, houtcome]
    by_cases hname : other = name <;> simp [hname]
  · rw [hstep, houtcome, Recalculated.succeed, NameMap.get?_insert, (Field.name_of_named? hf).2]
  · rw [hstep, houtcome, get?_fail, (Field.name_of_named? hf).2, fallback?, hf]
    rfl

/-- The name, if its formula succeeds. -/
def success? (rules : RecalcRules) (fields : List Field) (data : FormData) (name : String) :
    Option String :=
  match rules.outcome? fields data name with
  | some (.ok _) => some name
  | _ => none

/-- The failure of the formula of a name. -/
def failure? (rules : RecalcRules) (fields : List Field) (data : FormData) (name : String) :
    Option FieldFailure :=
  match rules.outcome? fields data name with
  | some (.error fault) => some ⟨name, fault⟩
  | _ => none

theorem step_recomputed (r : Recalculated) (name : String) :
    (rules.step fields r name).recomputed =
      r.recomputed ++ (rules.success? fields r.data name).toList := by
  rw [success?]
  rcases step_cases rules fields r name with
    ⟨houtcome, hstep⟩ | ⟨f, v, hf, houtcome, hstep⟩ | ⟨f, fault, hf, houtcome, hstep⟩
  · simp [hstep, houtcome]
  · simp [hstep, houtcome, Recalculated.succeed, (Field.name_of_named? hf).2]
  · simp [hstep, houtcome, Recalculated.fail]

theorem step_failures (r : Recalculated) (name : String) :
    (rules.step fields r name).failures =
      r.failures ++ (rules.failure? fields r.data name).toList := by
  rw [failure?]
  rcases step_cases rules fields r name with
    ⟨houtcome, hstep⟩ | ⟨f, v, hf, houtcome, hstep⟩ | ⟨f, fault, hf, houtcome, hstep⟩
  · simp [hstep, houtcome]
  · simp [hstep, houtcome, Recalculated.succeed]
  · simp [hstep, houtcome, Recalculated.fail, (Field.name_of_named? hf).2]

/-- Whether a field takes the default of its type: its formula fails on the data at the end, and it had
no value before. -/
def takesDefault (rules : RecalcRules) (fields : List Field) (before after : FormData)
    (name : String) : Bool :=
  rules.defaultOnFailure && (before.get? name).isNone && (rules.failure? fields after name).isSome

theorem takesDefault_congr {name : String} {before before' after after' : FormData}
    (hbefore : before.get? name = before'.get? name)
    (houtcome : rules.outcome? fields after name = rules.outcome? fields after' name) :
    rules.takesDefault fields before after name = rules.takesDefault fields before' after' name := by
  rw [takesDefault, takesDefault, failure?, failure?, hbefore, houtcome]

theorem step_defaulted (r : Recalculated) (name : String) :
    (rules.step fields r name).defaulted =
      r.defaulted + if rules.takesDefault fields r.data r.data name then 1 else 0 := by
  rw [takesDefault, failure?]
  rcases step_cases rules fields r name with
    ⟨houtcome, hstep⟩ | ⟨f, v, hf, houtcome, hstep⟩ | ⟨f, fault, hf, houtcome, hstep⟩
  · simp [hstep, houtcome]
  · simp [hstep, houtcome, Recalculated.succeed]
  · -- a failure counts only if the default is wanted and there was no value
    have hname := (Field.name_of_named? hf).2
    cases hvalue : r.data.get? name <;> cases huse : rules.defaultOnFailure <;>
      simp [hstep, houtcome, Recalculated.fail, NameMap.contains, hname, hvalue, huse]

/-! ### A whole pass -/

/-- Passing over a name first and over the others then: the data settled for all of them are those
settled for the others from where the first step leads. -/
theorem settled_cons_iff {name : String} {later : List String} {r : Recalculated} {data : FormData}
    (hfresh : name ∉ later) (hreads : ∀ other ∈ name :: later, ¬rules.Reads fields name other) :
    rules.Settled fields (name :: later) r.data data ↔
      rules.Settled fields later (rules.step fields r name).data data := by
  -- the formula of `name` reads nothing that the pass changes from here on
  have hkept (h : ∀ other, other ∉ name :: later → data.get? other = r.data.get? other) :
      rules.settledValue? fields r.data data name = rules.settledValue? fields r.data r.data name :=
    settledValue?_congr rfl fun b hb => h b fun hmem => hreads b hmem hb
  have hlater (other : String) (hne : other ≠ name) :
      rules.settledValue? fields (rules.step fields r name).data data other =
        rules.settledValue? fields r.data data other :=
    settledValue?_congr (by rw [step_get?, if_neg hne]) fun _ _ => rfl
  constructor
  · -- settled in the end: the first step has then done all that is ever done to `name`
    intro h other
    by_cases hname : other = name
    · subst hname
      have houtside : ∀ b, b ∉ other :: later → data.get? b = r.data.get? b := fun b hb => by
        rw [h b, if_neg hb]
      rw [h other, if_pos List.mem_cons_self, if_neg hfresh, step_get?, if_pos rfl, hkept houtside]
    · rw [h other, hlater other hname, step_get?, if_neg hname]
      simp [hname]
  · -- settled from the first step on: `name` keeps what that step gave it
    intro h other
    have houtside : ∀ b, b ∉ name :: later → data.get? b = r.data.get? b := by
      intro b hb
      obtain ⟨hne, hb⟩ := not_or.mp (mt List.mem_cons.mpr hb)
      rw [h b, if_neg hb, step_get?, if_neg hne]
    by_cases hname : other = name
    · subst hname
      rw [h other, if_neg hfresh, step_get?, if_pos rfl, if_pos List.mem_cons_self, hkept houtside]
    · rw [h other, hlater other hname, step_get?, if_neg hname]
      simp [hname]

/-- **Where a pass ends.** If the names are in order, the pass ends with settled data, and there are no
other settled data. -/
theorem settled_iff_eq_foldl {order : List String} (horder : rules.InOrder fields order)
    (r : Recalculated) {data : FormData} :
    rules.Settled fields order r.data data ↔ data = (order.foldl (rules.step fields) r).data := by
  induction order generalizing r with
  | nil =>
    constructor
    · exact fun h => NameMap.ext_get? fun name => by simpa using h name
    · rintro rfl name
      simp
  -- one step turns settled for all into settled for the rest, and back
  | cons name later ih =>
    obtain ⟨hfresh, hreads, hlater⟩ := horder
    rw [settled_cons_iff hfresh hreads, List.foldl_cons, ih hlater]

/-- The formula of the first name comes to the same at the beginning of the pass and at its end. -/
theorem outcome?_head {name : String} {later : List String}
    (horder : rules.InOrder fields (name :: later)) (r : Recalculated) :
    rules.outcome? fields r.data name =
      rules.outcome? fields ((name :: later).foldl (rules.step fields) r).data name := by
  have hsettled := (settled_iff_eq_foldl horder r).mpr rfl
  -- the pass writes to nothing that this formula reads
  refine outcome?_congr fun b hb => ?_
  rw [hsettled b, if_neg fun hmem => horder.2.1 b hmem hb]

/-- **What a pass reports can be read off its end.** If each step reports what the outcome of its formula
calls for, then a pass reports what the outcomes on the data at the end call for. -/
theorem reports_foldl {α : Type} {reports : Recalculated → List α}
    {report? : FormData → String → Option α}
    (hstep : ∀ r name, reports (rules.step fields r name) =
      reports r ++ (report? r.data name).toList)
    (houtcome : ∀ data other name, rules.outcome? fields data name =
      rules.outcome? fields other name → report? data name = report? other name)
    {order : List String} (horder : rules.InOrder fields order) (r : Recalculated) :
    reports (order.foldl (rules.step fields) r) = reports r ++
      order.filterMap (report? (order.foldl (rules.step fields) r).data) := by
  induction order generalizing r with
  | nil => simp
  | cons name later ih =>
    -- the first formula has the same outcome when its turn comes and in the end
    have hhead : report? r.data name =
        report? ((name :: later).foldl (rules.step fields) r).data name :=
      houtcome _ _ name (outcome?_head horder r)
    rw [List.filterMap_cons, ← hhead, List.foldl_cons, ih horder.2.2, hstep]
    cases report? r.data name <;> simp

/-- The names computed are those whose formulas succeed on the data at the end. -/
theorem recomputed_foldl {order : List String} (horder : rules.InOrder fields order)
    (r : Recalculated) :
    (order.foldl (rules.step fields) r).recomputed = r.recomputed ++
      order.filterMap (rules.success? fields (order.foldl (rules.step fields) r).data) :=
  reports_foldl step_recomputed (fun _ _ _ h => by rw [success?, success?, h]) horder r

/-- The failures are those of the formulas on the data at the end. -/
theorem failures_foldl {order : List String} (horder : rules.InOrder fields order)
    (r : Recalculated) :
    (order.foldl (rules.step fields) r).failures = r.failures ++
      order.filterMap (rules.failure? fields (order.foldl (rules.step fields) r).data) :=
  reports_foldl step_failures (fun _ _ _ h => by rw [failure?, failure?, h]) horder r

/-- The fields that take a default are those whose formulas fail on the data at the end, and that had no
value at the beginning. -/
theorem defaulted_foldl {order : List String} (horder : rules.InOrder fields order)
    (r : Recalculated) :
    (order.foldl (rules.step fields) r).defaulted = r.defaulted +
      order.countP (rules.takesDefault fields r.data (order.foldl (rules.step fields) r).data) := by
  induction order generalizing r with
  | nil => simp
  | cons name later ih =>
    have hhead : rules.takesDefault fields r.data r.data name = rules.takesDefault fields r.data
        ((name :: later).foldl (rules.step fields) r).data name :=
      takesDefault_congr rfl (outcome?_head horder r)
    -- the first step has touched none of the others
    have hlater : later.countP (rules.takesDefault fields (rules.step fields r name).data
        ((name :: later).foldl (rules.step fields) r).data) =
        later.countP (rules.takesDefault fields r.data
          ((name :: later).foldl (rules.step fields) r).data) := by
      refine List.countP_congr fun other hother => ?_
      have hne : other ≠ name := ne_of_mem_of_not_mem hother horder.1
      have hbefore : (rules.step fields r name).data.get? other = r.data.get? other := by
        rw [step_get?, if_neg hne]
      exact iff_of_eq (congrArg (· = true) (takesDefault_congr hbefore rfl))
    rw [List.foldl_cons] at hhead hlater
    rw [List.foldl_cons, ih horder.2.2, hlater, step_defaulted, hhead, List.countP_cons]
    omega

theorem candidates_foldl (order : List String) (r : Recalculated) :
    (order.foldl (rules.step fields) r).candidates = r.candidates := by
  induction order generalizing r with
  | nil => rfl
  | cons name later ih =>
    rw [List.foldl_cons, ih]
    rcases step_cases rules fields r name with ⟨-, hstep⟩ | ⟨f, v, -, -, hstep⟩ | ⟨f, fault, -, -, hstep⟩
    · rw [hstep]
    · rw [hstep, Recalculated.succeed]
    · rw [hstep, Recalculated.fail]

/-- As many fields are counted as are listed. -/
structure Counted (r : Recalculated) : Prop where
  /-- The fields computed. -/
  computed : r.computed = r.recomputed.length
  /-- The fields whose formulas failed. -/
  failed : r.failed = r.failures.length

theorem Counted.step {r : Recalculated} (h : Counted r) (name : String) :
    Counted (rules.step fields r name) := by
  rcases step_cases rules fields r name with ⟨-, hstep⟩ | ⟨f, v, -, -, hstep⟩ | ⟨f, fault, -, -, hstep⟩
  · rwa [hstep]
  · rw [hstep, Recalculated.succeed]
    exact ⟨by rw [h.computed, List.length_append, List.length_singleton], h.failed⟩
  · rw [hstep, Recalculated.fail]
    exact ⟨h.computed, by rw [h.failed, List.length_append, List.length_singleton]⟩

theorem Counted.foldl {r : Recalculated} (h : Counted r) (order : List String) :
    Counted (order.foldl (rules.step fields) r) := by
  induction order generalizing r with
  | nil => exact h
  | cons name later ih => exact ih (h.step name)

/-! ### The pass of a form -/

/-- The figures of a recalculation are the number of fields to calculate, and the lengths of what it
lists. -/
theorem figures_run (rules : RecalcRules) (fields : List Field) (graph : DependencyGraph)
    (changed : Option String) (data : FormData) :
    (rules.run fields graph changed data).figures =
      ⟨(graph.calculationOrder changed).length,
        (rules.run fields graph changed data).recomputed.length,
        (rules.run fields graph changed data).failures.length,
        (rules.run fields graph changed data).defaulted⟩ := by
  have hcandidates : (rules.run fields graph changed data).candidates =
      (graph.calculationOrder changed).length := by rw [run, candidates_foldl]
  have hempty : Counted { data, candidates := (graph.calculationOrder changed).length } := ⟨rfl, rfl⟩
  have hcounted : Counted (rules.run fields graph changed data) :=
    hempty.foldl (graph.calculationOrder changed)
  rw [Recalculated.figures, hcandidates, hcounted.computed, hcounted.failed]

section Built

variable {graph : DependencyGraph} (hgraph : DependencyGraph.ofFields rules.limits fields = .ok graph)
include hgraph

/-- A formula that reads a field makes its own field depend on it, and is not the formula of that
field. -/
theorem mem_precedents_of_reads {name other : String} (hreads : rules.Reads fields name other)
    (hother : other ∈ graph.names) : other ∈ graph.precedents name ∧ other ≠ name := by
  obtain ⟨text, htext, hmention⟩ := hreads
  obtain ⟨f, hnamed, hformula⟩ := Option.bind_eq_some_iff.mp htext
  obtain ⟨hf, rfl⟩ := Field.name_of_named? hnamed
  refine ⟨DependencyGraph.mem_precedents_of_formula hgraph hf hformula hmention hother, ?_⟩
  rintro rfl
  exact DependencyGraph.formula_not_mentions_self hgraph hf hformula hmention

theorem inOrder_of_pairwise {order : List String} (hnodup : order.Nodup)
    (hpairwise : order.Pairwise fun a b => b ∉ graph.precedents a)
    (hnames : ∀ name ∈ order, name ∈ graph.names) : rules.InOrder fields order := by
  induction order with
  | nil => trivial
  | cons name later ih =>
    obtain ⟨hfresh, hnodup⟩ := List.nodup_cons.mp hnodup
    obtain ⟨hfree, hpairwise⟩ := List.pairwise_cons.mp hpairwise
    obtain ⟨hname, hnames⟩ := List.forall_mem_cons.mp hnames
    refine ⟨hfresh, ?_, ih hnodup hpairwise hnames⟩
    intro other hother hreads
    -- its own field is ruled out by the check of the formula, a later one by the order
    rcases List.mem_cons.mp hother with rfl | hother
    · exact (mem_precedents_of_reads hgraph hreads hname).2 rfl
    · exact hfree other hother (mem_precedents_of_reads hgraph hreads (hnames other hother)).1

/-- The fields to calculate come in an order in which no formula reads its own field or a later one. -/
theorem inOrder_calculationOrder (changed : Option String) :
    rules.InOrder fields (graph.calculationOrder changed) := by
  have hnodup := (DependencyGraph.ofFields_eq_ok hgraph).2.1
  have horder (keep : String → Bool) : rules.InOrder fields (graph.order (graph.names.filter keep)) :=
    inOrder_of_pairwise hgraph (DependencyGraph.nodup_order (hnodup.filter keep))
      (DependencyGraph.order_pairwise (hnodup.filter keep))
      fun _ hname => List.mem_of_mem_filter
        (DependencyGraph.mem_of_mem_order (hnodup.filter keep) hname)
  -- either way the names are some of those of the graph, put into order
  cases changed with
  | none => exact horder _
  | some field => exact horder _

theorem recalculate_eq_run (changed : Option String) (data : FormData) :
    rules.recalculate fields changed data = .ok (rules.run fields graph changed data) := by
  rw [recalculate, hgraph]
  rfl

/-- **A recalculation ends with settled data**, and with no others. -/
theorem settled_iff_eq_run {changed : Option String} {data after : FormData} :
    rules.Settled fields (graph.calculationOrder changed) data after ↔
      after = (rules.run fields graph changed data).data :=
  settled_iff_eq_foldl (inOrder_calculationOrder hgraph changed) { data, candidates := _ }

theorem settled_run (changed : Option String) (data : FormData) :
    rules.Settled fields (graph.calculationOrder changed) data
      (rules.run fields graph changed data).data :=
  (settled_iff_eq_run hgraph).mpr rfl

theorem recomputed_run (changed : Option String) (data : FormData) :
    (rules.run fields graph changed data).recomputed = (graph.calculationOrder changed).filterMap
      (rules.success? fields (rules.run fields graph changed data).data) := by
  rw [run, recomputed_foldl (inOrder_calculationOrder hgraph changed), List.nil_append]

theorem failures_run (changed : Option String) (data : FormData) :
    (rules.run fields graph changed data).failures = (graph.calculationOrder changed).filterMap
      (rules.failure? fields (rules.run fields graph changed data).data) := by
  rw [run, failures_foldl (inOrder_calculationOrder hgraph changed), List.nil_append]

theorem defaulted_run (changed : Option String) (data : FormData) :
    (rules.run fields graph changed data).defaulted = (graph.calculationOrder changed).countP
      (rules.takesDefault fields data (rules.run fields graph changed data).data) := by
  rw [run, defaulted_foldl (inOrder_calculationOrder hgraph changed), Nat.zero_add]

end Built

end RecalcRules

/-! ### The invoice -/

/-- What has been entered into the invoice. -/
def invoiceData : FormData :=
  .ofList [("quantity", .number .zero), ("price", .number .one)]

/-- Rules for the invoice. -/
def invoiceRules : RecalcRules where
  now := .origin

end Formulary
