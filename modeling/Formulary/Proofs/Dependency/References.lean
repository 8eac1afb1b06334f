import Formulary.Dependency.Building
import Formulary.Proofs.Evaluation.Agreement
import Mathlib.Data.List.Chain
import Mathlib.Logic.Relation

/-!
# What the fields of a form refer to

The references among the fields of a form, said of its expressions and without a graph:

* `IsReference`: an expression of one field, in one role, can be read and mentions another field. A
  condition or a rule across fields may mention its own field, which is no reference; a formula or an
  expression for options that does so refers to its own field.
* `References` forgets the role, and `DependsOn` follows references from field to field.
* `IsCycle` is a way from a field back to it that passes no field twice.

The graph of a form is measured against these in `Formulary.Proofs.Dependency.Edges` and
`Formulary.Proofs.Dependency.Acceptance`.
-/

namespace Formulary

/-- An expression of the edge's field, in the edge's role, can be read and mentions the other field of
the edge, which counts for the own field only in roles that yield something. -/
def IsReference (limits : Limits) (fields : List Field) (edge : Edge) : Prop :=
  (∃ f ∈ fields, f.name = edge.field ∧ ∃ text, (edge.role, text) ∈ f.expressions ∧
      TextMentions limits text edge.dependsOn) ∧
    (∃ f ∈ fields, f.name = edge.dependsOn) ∧
      (edge.dependsOn = edge.field → edge.role.yields = true)

/-- A field refers to another one, in any role. -/
def References (limits : Limits) (fields : List Field) (a b : String) : Prop :=
  ∃ role, IsReference limits fields ⟨a, b, role⟩

/-- A field refers to another one, directly or through others. -/
def DependsOn (limits : Limits) (fields : List Field) : String → String → Prop :=
  Relation.TransGen (References limits fields)

/-- A way along references from a field back to it that passes no field twice in between. -/
structure IsCycle (refersTo : String → String → Prop) (path : List String) : Prop where
  /-- There are at least two names. -/
  two_le_length : 2 ≤ path.length
  /-- The way ends where it begins. -/
  closed : path.head? = path.getLast?
  /-- Apart from that no field occurs twice. -/
  distinct : path.dropLast.Nodup
  /-- Each field refers to the next. -/
  steps : path.IsChain refersTo

variable {limits : Limits} {fields : List Field}

/-- Both ends of a reference are fields. -/
theorem References.exists_fields {a b : String} (h : References limits fields a b) :
    (∃ f ∈ fields, f.name = a) ∧ ∃ f ∈ fields, f.name = b := by
  obtain ⟨role, ⟨f, hf, hname, -⟩, hb, -⟩ := h
  exact ⟨⟨f, hf, hname⟩, hb⟩

/-- The references of a field come from its own expressions only: two forms with the same names whose
fields of one name are the same have the same references from there. -/
theorem references_congr {fields' : List Field} {a b : String}
    (hfields : ∀ f, f.name = a → (f ∈ fields ↔ f ∈ fields'))
    (hnames : ∀ name, (∃ f ∈ fields, f.name = name) ↔ ∃ f ∈ fields', f.name = name) :
    References limits fields a b ↔ References limits fields' a b := by
  refine exists_congr fun role => and_congr ?_ (and_congr (hnames b) Iff.rfl)
  constructor
  · rintro ⟨f, hf, hname, htext⟩
    exact ⟨f, (hfields f hname).mp hf, hname, htext⟩
  · rintro ⟨f, hf, hname, htext⟩
    exact ⟨f, (hfields f hname).mpr hf, hname, htext⟩

/-- Who goes around a cycle comes back. -/
theorem IsCycle.exists_transGen {refersTo : String → String → Prop} {path : List String}
    (h : IsCycle refersTo path) : ∃ a, Relation.TransGen refersTo a a := by
  obtain ⟨hlength, hclosed, -, hsteps⟩ := h
  match path with
  | [] => exact absurd hlength (by simp)
  | [_] => exact absurd hlength (by simp)
  | a :: next :: rest =>
    obtain ⟨hfirst, hsteps⟩ := List.isChain_cons_cons.mp hsteps
    have hlast : (next :: rest).getLast (List.cons_ne_nil _ _) = a := by
      rw [List.head?_cons, List.getLast?_cons_cons, List.getLast?_eq_some_getLast
        (List.cons_ne_nil _ _)] at hclosed
      exact (Option.some.inj hclosed).symm
    -- one step, and then the rest of the way
    have hback := List.relationReflTransGen_of_exists_isChain_cons rest hsteps hlast
    exact ⟨a, Relation.TransGen.head' hfirst hback⟩

end Formulary
