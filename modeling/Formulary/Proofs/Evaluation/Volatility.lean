import Formulary.Proofs.Evaluation.Agreement

/-!
# What evaluation depends on

An expression over the functions there are depends on what its names stand for, and on the time only if it
is volatile (`Context.evaluate_builtin_congr`).

Two functions read the clock, `NOW` and `TODAY`, and no other one does (`Eager.apply_congr`). All that a
registry has to do is to declare such functions volatile (`Registry.DeclaresTime`).
-/

namespace Formulary

/-- What a function of values yields does not depend on the time, unless it asks for it. -/
theorem Eager.apply_congr {f : Eager} (hnow : f ≠ .now) (htoday : f ≠ .today) (clock other : DateTime)
    (arguments : List Value) : f.apply clock arguments = f.apply other arguments := by
  cases f with
  | now => exact absurd rfl hnow
  | today => exact absurd rfl htoday
  | _ => rfl

namespace Registry

/-- The functions of a registry that ask for the time are declared volatile. -/
def DeclaresTime (r : Registry) : Prop :=
  ∀ name definition, r.find? name = some definition →
    definition.handler = .eager .now ∨ definition.handler = .eager .today → definition.volatile = true

theorem declaresTime_builtin : builtin.DeclaresTime := by
  have hall : ∀ d ∈ Builtin.all, d.handler = .eager .now ∨ d.handler = .eager .today →
      d.volatile = true := by decide
  intro name definition hfind
  exact hall definition (mem_all_of_find?_builtin hfind)

/-- An expression that is not volatile calls no function that is. -/
theorem not_volatile_of_mem_calls {r : Registry} {e : Expression} (h : r.isVolatile e = false)
    {call : String × Nat} (hcall : call ∈ e.calls) {definition : Definition}
    (hfind : r.find? call.1 = some definition) : definition.volatile = false := by
  have hmem : call.1 ∈ e.functions := List.mem_map.mpr ⟨call, hcall, rfl⟩
  have hnone := List.any_eq_false.mp h call.1 hmem
  simpa [hfind] using hnone

end Registry

namespace Context

variable {c d : Context}

/-- The time makes no difference to the functions that an expression calls if it is the same, or if the
expression is not volatile. -/
theorem sameTimeFor_of_declaresTime (hdeclares : c.registry.DeclaresTime) {e : Expression}
    (hclock : c.now = d.now ∨ c.registry.isVolatile e = false) {call : String × Nat}
    (hcall : call ∈ e.calls) : SameTimeFor c d call.1 := by
  intro definition f hfind hhandler arguments
  rcases hclock with hnow | hsteady
  · rw [hnow]
  · have hvolatile := Registry.not_volatile_of_mem_calls hsteady hcall hfind
    -- a function that asks for the time would have been declared volatile
    have hnow : f ≠ .now := by
      rintro rfl
      exact absurd (hdeclares call.1 definition hfind (Or.inl hhandler)) (by simp [hvolatile])
    have htoday : f ≠ .today := by
      rintro rfl
      exact absurd (hdeclares call.1 definition hfind (Or.inr hhandler)) (by simp [hvolatile])
    exact Eager.apply_congr hnow htoday c.now d.now arguments

/-- **Evaluation depends only on what the expression names.** Two contexts with the functions there are
and with the same scope agree on every variable name of an expression: in both it stands for the same
value, or for nothing. Then the expression has the same value or the same fault in both, at the same time
or, if it is not volatile, at any times. -/
theorem evaluate_builtin_congr (c d : Context) (hc : c.registry = .builtin) (hd : d.registry = .builtin)
    (hscope : c.scope = d.scope) (e : Expression)
    (hnames : ∀ name ∈ e.variableNames, c.get? name = d.get? name)
    (hclock : c.now = d.now ∨ Registry.builtin.isVolatile e = false) :
    c.evaluate e = d.evaluate e := by
  have hdeclares : c.registry.DeclaresTime := hc ▸ Registry.declaresTime_builtin
  have hmentions : ∀ name ∈ e.mentions, c.get? name = d.get? name := fun name hname =>
    hnames name (Expression.mem_variableNames.mpr hname)
  refine evaluate_eq_of_agree ⟨hc.trans hd.symm, hscope⟩ e hmentions fun call hcall => ?_
  exact sameTimeFor_of_declaresTime hdeclares (hc ▸ hclock) hcall

/-! ### A greeting

An expression to try the statement on: a name that stands for nothing, and one that is hidden by another. -/

/-- The greeting of a customer who has no coupon. -/
def greeting : Expression :=
  .call "IF" [.call "IS_NULL" [.var "coupon"], .call "UPPER" [.var "customer"], .var "coupon"]

/-- The customer stands among the data. -/
def entered : Context where
  data := .ofList [("customer", .string "Ada"), ("country", .string "SE")]
  now := .origin

/-- Another customer stands among the data, who is hidden, and it is a day later. -/
def revisited : Context where
  data := .ofList [("customer", .string "Grace")]
  locals := .ofList [("customer", .string "Ada")]
  now := ⟨⟨1, by decide, by decide⟩, .midnight⟩

/-- The greeting is the same for a customer who comes back. -/
theorem evaluate_builtin_congr_greeting :
    entered.now ≠ revisited.now ∧ entered.evaluate greeting = revisited.evaluate greeting := by
  have hnames : greeting.variableNames = ["coupon", "customer"] := by decide
  have hsteady : Registry.builtin.isVolatile greeting = false := by decide
  refine ⟨by decide, evaluate_builtin_congr entered revisited rfl rfl rfl greeting ?_ (Or.inr hsteady)⟩
  rw [hnames]
  decide

end Context

end Formulary
