import Formulary.Proofs.Dependency.Ordering

/-!
# Foreseeing a cycle

`DependencyGraph.wouldCreateCycle` is asked about a form that has a graph: would one field still be free of
itself if it depended on another one as well? It answers by searching the graph as it is, from the second
field along its precedents. The other way to find out is to change the form and to have its graph built.

The two agree (`refused_setOptions_iff`) for a field without options whose options are then made to come
from the other field. The form gains one reference by that and no other (`isReference_setOptions`), a cycle
has to pass through it (`dependsOn_setOptions`), and so there is one exactly if the second field leads to
the first already.
-/

namespace Formulary

/-! ### A field that is given options -/

/-- The form in which the options of the field of this name come from an expression. -/
def Field.setOptions (fields : List Field) (name text : String) : List Field :=
  fields.map fun f => if f.name = name then f.withDynamicOptions text else f

/-- There are the same names. -/
theorem Field.map_name_setOptions (fields : List Field) (name text : String) :
    (Field.setOptions fields name text).map Field.name = fields.map Field.name := by
  rw [Field.setOptions, List.map_map]
  refine List.map_congr_left fun f _ => ?_
  rw [Function.comp_apply]
  split
  · rfl
  · rfl

/-- A field without options gains one expression with them. -/
theorem Field.mem_expressions_withDynamicOptions {f : Field} (hoptions : f.dynamicOptions = none)
    (text : String) {entry : Role × String} :
    entry ∈ (f.withDynamicOptions text).expressions ↔
      entry ∈ f.expressions ∨ entry = (Role.options, text) := by
  simp only [expressions, withDynamicOptions, formulaText?, hoptions, Option.map_none, Option.map_some,
    Option.toList_none, Option.toList_some, List.mem_append, List.mem_singleton, List.not_mem_nil]
  tauto

namespace DependencyGraph

/-! ### One more step -/

/-- A way on which one more step may be taken either does without it, or leads to its beginning and on
from its end. -/
theorem transGen_of_step {r r' : String → String → Prop} {source target a b : String}
    (hstep : ∀ x y, r' x y → r x y ∨ (x = source ∧ y = target)) (h : Relation.TransGen r' a b) :
    Relation.TransGen r a b ∨
      (Relation.ReflTransGen r a source ∧ Relation.ReflTransGen r target b) := by
  induction h with
  | single hab =>
    rcases hstep _ _ hab with hab | ⟨rfl, rfl⟩
    · exact Or.inl (.single hab)
    · exact Or.inr ⟨.refl, .refl⟩
  | tail _ hbc ih =>
    -- a step of the old relation goes on with what there is
    rcases hstep _ _ hbc with hbc | ⟨rfl, rfl⟩
    · rcases ih with hway | ⟨hsource, htarget⟩
      · exact Or.inl (hway.tail hbc)
      · exact Or.inr ⟨hsource, htarget.tail hbc⟩
    · -- the step is taken now; where it led before does not matter
      rcases ih with hway | ⟨hsource, -⟩
      · exact Or.inr ⟨hway.to_reflTransGen, .refl⟩
      · exact Or.inr ⟨hsource, .refl⟩

variable {limits : Limits} {fields : List Field} {g : DependencyGraph}

/-! ### The answer -/

/-- The search from one field along precedents finds what it leads to. -/
theorem mem_reach_precedents_iff (hclosed : ∀ a, ∀ b ∈ g.precedents a, b ∈ g.names) {target name : String}
    (htarget : target ∈ g.names) :
    name ∈ g.reach g.precedents [] [target] ↔ Relation.ReflTransGen g.Precedes target name := by
  constructor
  · intro hreached
    obtain ⟨b, hb, hway⟩ := (reach_sound hreached).resolve_left List.not_mem_nil
    obtain rfl := List.mem_singleton.mp hb
    exact hway
  · have hfresh : target ∈ g.names ∧ target ∉ ([] : List String) := ⟨htarget, List.not_mem_nil⟩
    -- after one step `target` is noted, and all that it leads to is on the frontier
    have hstart : ∀ a ∈ [target], ∀ b ∈ g.precedents a, b ∈ g.names →
        b ∈ [target] ∨ b ∈ g.precedents target ++ [] := by
      intro a ha b hb _
      obtain rfl := List.mem_singleton.mp ha
      exact Or.inr (List.mem_append_left _ hb)
    obtain ⟨hseen, hreach⟩ := reach_closed hstart
    rw [reach, dif_pos hfresh]
    intro hway
    induction hway with
    | refl => exact hseen target (List.mem_singleton_self target)
    | tail _ hbc ih => exact hreach _ ih _ hbc (hclosed _ _ hbc)

/-- **The answer is whether the target leads to the field already.** -/
theorem wouldCreateCycle_iff (hclosed : ∀ a, ∀ b ∈ g.precedents a, b ∈ g.names) {field target : String}
    (hfield : field ∈ g.names) (htarget : target ∈ g.names) :
    g.wouldCreateCycle field target = true ↔ Relation.ReflTransGen g.Precedes target field := by
  have hcontains : g.contains field = true := List.contains_iff_mem.mpr hfield
  rw [wouldCreateCycle, hcontains, Bool.true_and, Bool.or_eq_true, beq_iff_eq, List.contains_iff_mem,
    mem_reach_precedents_iff hclosed htarget]
  constructor
  · rintro (rfl | hway)
    · exact .refl
    · exact hway
  · exact Or.inr

/-! ### The form with the options -/

/-- A form whose fields have different names is refused with a cycle exactly if a field depends on
itself. -/
theorem refused_iff_exists_dependsOn_self (hnodup : (fields.map Field.name).Nodup) :
    (∃ path, ofFields limits fields = .error (.cycleDetected path)) ↔
      ∃ a, DependsOn limits fields a a := by
  constructor
  · rintro ⟨path, hrefused⟩
    obtain ⟨_, -, hcycle⟩ := isCycle_of_ofFields hnodup hrefused
    exact hcycle.exists_transGen
  · rintro ⟨a, ha⟩
    cases hgraph : ofFields limits fields with
    | ok g => exact absurd ha (not_dependsOn_self hgraph a)
    | error fault =>
      obtain ⟨path, rfl, -⟩ := isCycle_of_ofFields hnodup hgraph
      exact ⟨path, rfl⟩

section Built

variable (h : ofFields limits fields = .ok g) {f k : Field} (hf : f ∈ fields) (hk : k ∈ fields)
  (hne : f ≠ k) (hoptions : f.dynamicOptions = none) {text : String}
  (htext : Expression.ofText limits text = .ok (.var k.name))
include h hf hk hne hoptions htext

/-- **The form gains one reference**: from the field with the options to the one that they come from. -/
theorem isReference_setOptions {edge : Edge} :
    IsReference limits (Field.setOptions fields f.name text) edge ↔
      IsReference limits fields edge ∨ edge = ⟨f.name, k.name, .options⟩ := by
  have hmentions (name : String) : TextMentions limits text name ↔ name = k.name := by
    simp [TextMentions, htext, Expression.mentions]
  have hnames (name : String) :
      (∃ f' ∈ Field.setOptions fields f.name text, f'.name = name) ↔ ∃ f' ∈ fields, f'.name = name := by
    rw [← List.mem_map, ← List.mem_map, Field.map_name_setOptions]
  have hdiffer : k.name ≠ f.name := fun hname => hne (eq_of_name_eq h hf hk hname.symm)
  constructor
  · rintro ⟨⟨f', hmem, hname, t, ht, hmention⟩, hdepends, hyields⟩
    rw [hnames] at hdepends
    obtain ⟨f₀, hf₀, rfl⟩ := List.mem_map.mp hmem
    by_cases heq : f₀.name = f.name
    · -- it is the field that has been given options
      obtain rfl := eq_of_name_eq h hf₀ hf heq
      rw [if_pos rfl] at hname ht
      rcases (Field.mem_expressions_withDynamicOptions hoptions text).mp ht with ht | ht
      · exact Or.inl ⟨⟨f₀, hf₀, hname, t, ht, hmention⟩, hdepends, hyields⟩
      · obtain ⟨hrole, rfl⟩ := Prod.mk.inj ht
        have hdependsOn := (hmentions edge.dependsOn).mp hmention
        obtain ⟨field, dependsOn, role⟩ := edge
        obtain rfl : f₀.name = field := hname
        subst hrole hdependsOn
        exact Or.inr rfl
    · rw [if_neg heq] at hname ht
      exact Or.inl ⟨⟨f₀, hf₀, hname, t, ht, hmention⟩, hdepends, hyields⟩
  · -- every field has one that stands for it in the form with the options
    have hkept {f' : Field} (hf' : f' ∈ fields) :
        (if f'.name = f.name then f'.withDynamicOptions text else f') ∈
          Field.setOptions fields f.name text :=
      List.mem_map_of_mem hf'
    rintro (⟨⟨f', hf', hname, t, ht, hmention⟩, hdepends, hyields⟩ | rfl)
    · refine ⟨⟨_, hkept hf', ?_, t, ?_, hmention⟩, (hnames _).mpr hdepends, hyields⟩
      · split
        · exact hname
        · exact hname
      · split
        · next heq =>
          obtain rfl := eq_of_name_eq h hf' hf heq
          exact (Field.mem_expressions_withDynamicOptions hoptions text).mpr (Or.inl ht)
        · exact ht
    · -- the reference that is new is that of the options, which the form did not have before
      refine ⟨⟨_, hkept hf, ?_, text, ?_, (hmentions _).mpr rfl⟩, (hnames _).mpr ⟨k, hk, rfl⟩,
        fun heq => absurd heq hdiffer⟩
      · rw [if_pos rfl]
        rfl
      · rw [if_pos rfl]
        exact (Field.mem_expressions_withDynamicOptions hoptions text).mpr (Or.inr rfl)

theorem references_setOptions (a b : String) :
    References limits (Field.setOptions fields f.name text) a b ↔
      References limits fields a b ∨ (a = f.name ∧ b = k.name) := by
  constructor
  · rintro ⟨role, href⟩
    rcases (isReference_setOptions h hf hk hne hoptions htext).mp href with href | hedge
    · exact Or.inl ⟨role, href⟩
    · obtain ⟨rfl, rfl, -⟩ := Edge.mk.inj hedge
      exact Or.inr ⟨rfl, rfl⟩
  · rintro (⟨role, href⟩ | ⟨rfl, rfl⟩)
    · exact ⟨role, (isReference_setOptions h hf hk hne hoptions htext).mpr (Or.inl href)⟩
    · exact ⟨.options, (isReference_setOptions h hf hk hne hoptions htext).mpr (Or.inr rfl)⟩

/-- **A field depends on itself after that exactly if the other field led to it before.** -/
theorem dependsOn_setOptions :
    (∃ a, DependsOn limits (Field.setOptions fields f.name text) a a) ↔
      Relation.ReflTransGen (References limits fields) k.name f.name := by
  have hsteps := references_setOptions h hf hk hne hoptions htext
  constructor
  · rintro ⟨a, ha⟩
    -- there was no cycle before, so one that there is takes the new step
    rcases transGen_of_step (fun x y => (hsteps x y).mp) ha with hcycle | ⟨hsource, htarget⟩
    · exact absurd hcycle (not_dependsOn_self h a)
    · exact htarget.trans hsource
  · intro hway
    have hfirst : References limits (Field.setOptions fields f.name text) f.name k.name :=
      (hsteps f.name k.name).mpr (Or.inr ⟨rfl, rfl⟩)
    have hback := Relation.ReflTransGen.mono (fun a b hab => (hsteps a b).mpr (Or.inl hab)) _ _ hway
    exact ⟨f.name, .head' hfirst hback⟩

end Built

/-- **A cycle is foreseen exactly if the changed form is refused with one.** Give a field of a form that
has a graph and no options an expression for them that names another field: the graph cannot be built
again, because of a cycle, exactly if `wouldCreateCycle` has said so of the graph as it was. -/
theorem refused_setOptions_iff {limits : Limits} {fields : List Field} {g : DependencyGraph}
    (h : ofFields limits fields = .ok g) {f k : Field} (hf : f ∈ fields) (hk : k ∈ fields)
    (hne : f ≠ k) (hoptions : f.dynamicOptions = none)
    (htext : Expression.ofText limits ("$" ++ k.name) = .ok (.var k.name)) :
    (∃ path, ofFields limits (Field.setOptions fields f.name ("$" ++ k.name)) =
        .error (.cycleDetected path)) ↔
      g.wouldCreateCycle f.name k.name = true := by
  have hnodup : ((Field.setOptions fields f.name ("$" ++ k.name)).map Field.name).Nodup := by
    rw [Field.map_name_setOptions]
    exact nodup_names_ofFields h
  have hfield : f.name ∈ g.names := (mem_names_ofFields h).mpr ⟨f, hf, rfl⟩
  have htarget : k.name ∈ g.names := (mem_names_ofFields h).mpr ⟨k, hk, rfl⟩
  rw [refused_iff_exists_dependsOn_self hnodup, dependsOn_setOptions h hf hk hne hoptions htext,
    wouldCreateCycle_iff (fun _ _ hb => precedents_subset_names h hb) hfield htarget,
    precedes_ofFields h]

/-- Whether the options of the price can come from the total. -/
theorem refused_setOptions_invoice :
    (∃ path, ofFields {} (Field.setOptions invoice "price" "$total") =
        .error (.cycleDetected path)) ↔
      invoiceGraph.wouldCreateCycle "price" "total" = true := by
  have hlexemes : Lexemes.ofChars (Text.trim "$total".toList) =
      ⟨[⟨.var "total", 0⟩], .finished 6⟩ := by
    decide +kernel
  have htext := ofText_lone (Or.inr rfl) (by decide +kernel) hlexemes
  exact refused_setOptions_iff ofFields_invoice
    (f := { name := "price", type := .number })
    (k := { name := "total", type := .number, formula := some ⟨"quantity * price", .arithmetic⟩ })
    (by simp [invoice]) (by simp [invoice]) (by simp) rfl htext

end DependencyGraph

end Formulary
