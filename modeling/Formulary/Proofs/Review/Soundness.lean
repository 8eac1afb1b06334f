import Mathlib.Data.List.Basic
import Formulary.Engine
import Formulary.Proofs.Evaluation.Agreement
import Formulary.Proofs.Evaluation.Faults
import Formulary.Proofs.Expression.Completeness

/-!
# Reviewing a text is sound

A text in which review finds nothing wrong is evaluated without any of the faults that review looks for
(`Engine.evaluate_of_isValid`): it is read, its calls call functions that there are with as many arguments as
they take, and its names stand for something if the known ones do. This holds whatever the values are, and
also for the calls within the arguments of functions that take up only some of them.

`IF` and `IS_NULL` check the number of their arguments themselves. What a registry has to do is to let only
numbers through that they can do with (`Registry.SuitsLazy`).
-/

namespace Formulary

namespace Registry

/-- The functions of a registry that look at their arguments one by one accept only as many as they can do
with. -/
def SuitsLazy (r : Registry) : Prop :=
  ∀ name d f, r.find? name = some d → d.handler = .lazy f → ∀ count, d.Accepts count → f.Takes count

theorem suitsLazy_builtin : builtin.SuitsLazy := by
  -- two of these functions cannot do with any number of arguments
  have hall : ∀ d ∈ Builtin.all, (d.handler = .lazy .ifElse → d.least = 2) ∧
      (d.handler = .lazy .isNull → d.least = 1 ∧ d.most = some 1) := by decide
  intro name d f hfind hhandler count haccepts
  obtain ⟨hifElse, hisNull⟩ := hall d (mem_all_of_find?_builtin hfind)
  cases f with
  | ifElse => exact Nat.le_trans (Nat.le_of_eq (hifElse hhandler).symm) haccepts.1
  | and => trivial
  | or => trivial
  | isNull =>
    obtain ⟨hleast, hmost⟩ := hisNull hhandler
    exact Nat.le_antisymm (haccepts.2 1 hmost) (Nat.le_trans (Nat.le_of_eq hleast.symm) haccepts.1)

/-- A call that is not wrong calls a function that there is. -/
theorem exists_of_checkCall_eq_none {r : Registry} {function : String} {count : Nat}
    (h : r.checkCall function count = none) :
    ∃ d, r.lookup function = .ok d ∧ d.checkArity count = .ok () := by
  rw [checkCall] at h
  split at h
  · exact absurd h (by simp)
  · next d hlookup =>
    split at h
    · exact absurd h (by simp)
    · next harity => exact ⟨d, hlookup, harity⟩

theorem checkCalls_eq_nil_iff {r : Registry} {e : Expression} :
    r.checkCalls e = [] ↔ ∀ call ∈ e.calls, r.checkCall call.1 call.2 = none :=
  List.filterMap_eq_nil_iff

end Registry

namespace Context

variable {c : Context}

/-- A call that is not wrong can fail for its place only. -/
theorem resolve_onlyByData {function : String} {count : Nat}
    (h : c.registry.checkCall function count = none) : OnlyByData (c.resolve function count) := by
  obtain ⟨d, hlookup, harity⟩ := Registry.exists_of_checkCall_eq_none h
  rw [resolve, hlookup, ok_bind, harity, ok_bind]
  exact .ite (.error rfl) (.ok _)

/-- **An expression without wrong calls fails by its values only**, if its names stand for something. -/
theorem evaluate_onlyByData (hsuits : c.registry.SuitsLazy) (e : Expression)
    (hnames : ∀ name ∈ e.mentions, (c.get? name).isSome)
    (hcalls : ∀ call ∈ e.calls, c.registry.checkCall call.1 call.2 = none) :
    OnlyByData (c.evaluate e) := by
  refine evaluate_failsWith ⟨fun _ hstatic => hstatic, ?_⟩ e ?_ ?_
  · -- the three ways of failing that the values have no part in: too few arguments, no value, a wrong call
    intro function count d f hresolve hhandler htakes
    obtain ⟨hfind, haccepts⟩ := resolve_eq_ok hresolve
    exact absurd (hsuits function d f hfind hhandler count haccepts) htakes
  · intro name hname
    obtain ⟨v, hv⟩ := Option.isSome_iff_exists.mp (hnames name hname)
    rw [lookup, hv]
    exact .ok v
  · intro call hcall
    exact resolve_onlyByData (hcalls call hcall)

end Context

/-! ### Review -/

namespace Report

/-- In a text without faults there is an expression whose calls are not wrong and whose variables are
known. -/
theorem exists_of_isValid {limits : Limits} {registry : Registry} {known : List String} {text : String}
    (h : (ofText limits registry (some known) text).isValid = true) :
    ∃ e, Expression.ofText limits text = .ok e ∧ registry.checkCalls e = [] ∧
      ∀ name ∈ e.mentions, name ∈ known := by
  rw [isValid, ofText, List.isEmpty_iff] at h
  split at h
  · exact absurd h (by simp)
  dsimp only at h
  split at h
  · split at h
    · next e hread =>
      -- nothing is found at the two checks that come last
      obtain ⟨hcalls, hunknown⟩ := List.append_eq_nil_iff.mp h
      refine ⟨e, hread, hcalls, fun name hname => ?_⟩
      rw [unknownVariables, List.map_eq_nil_iff, List.filter_eq_nil_iff] at hunknown
      simpa using hunknown name (Expression.mem_variableNames.mpr hname)
    · exact absurd h (by simp)
  · next houter => exact absurd (List.isEmpty_iff.mpr h) houter

end Report

namespace Engine

/-- **A text in which review finds nothing wrong fails by the data only.** With the functions there are and
data that hold all known names, its evaluation has no fault of the text, and calls no function that there
is not, or with a wrong number of arguments, and finds a value for every name. -/
theorem evaluate_of_isValid (e : Engine) (hregistry : e.registry = .builtin) (text : String)
    (known : List String) (hvalid : (e.review (some known) text).isValid = true) (data : FormData)
    (hdata : ∀ name ∈ known, (data.get? name).isSome) (fault : Fault)
    (hfault : (e.evaluate data text).1 = .error fault) :
    fault.isSyntax = false ∧ (∀ token, fault ≠ .unsafeExpression token) ∧
      (∀ function, fault ≠ .unknownFunction function) ∧
      (∀ function expected actual, fault ≠ .arityMismatch function expected actual) ∧
      ∀ name, fault ≠ .unknownVariable name := by
  obtain ⟨expression, hread, hcalls, hknown⟩ := Report.exists_of_isValid hvalid
  have hsuits : (e.context data).registry.SuitsLazy := by
    rw [context, hregistry]
    exact Registry.suitsLazy_builtin
  -- nothing is bound locally at first, so names stand for the data
  have hnames : ∀ name ∈ expression.mentions, ((e.context data).get? name).isSome := by
    intro name hname
    have hlocals : (e.context data).locals.get? name = none := rfl
    rw [Context.get?, hlocals, Option.none_or]
    exact hdata name (hknown name hname)
  have honly : OnlyByData ((e.context data).evaluate expression) :=
    Context.evaluate_onlyByData hsuits expression hnames (Registry.checkCalls_eq_nil_iff.mp hcalls)
  -- the text is read, so the fault is one of the evaluation
  have hstatic : fault.isStatic = false := by
    refine honly fault ?_
    rw [evaluate, auditRecord, hread] at hfault
    exact hfault
  cases fault <;> simp_all [Fault.isStatic, Fault.isSyntax]

/-! ### A quotient

A text to try the statement on: nothing is wrong with it, and it fails for a divisor of zero. -/

theorem ofText_quotient : Expression.ofText {} "total / count" =
    .ok (.call "DIVIDE" [.var "total", .var "count"]) := by
  refine Expression.ofText_eq_ok_iff.mpr ⟨by decide +kernel,
    [⟨.name "total", 0⟩, ⟨.symbol .slash, 6⟩, ⟨.name "count", 8⟩], 13, by decide +kernel, ?_⟩
  have htotal := (Derives.bareName 64 "total").chain_of_primary .product
  have hcount : Derives .signed 64 [.name "count"] (.var "count") := .unsigned (.bareName 64 "count")
  exact .operand (.operand (.operand (.operand (.join htotal hcount (.slash _ _)))))

/-- An engine as it is at first, at some time. -/
def fresh : Engine := .new .origin {}

/-- A total of no items. -/
def noItems : FormData := .ofList [("count", .number .zero), ("total", .number .zero)]

theorem evaluate_of_isValid_quotient :
    (fresh.review (some ["count", "total"]) "total / count").isValid = true ∧
      (fresh.evaluate noItems "total / count").1 = .error .divisionByZero ∧
      Fault.divisionByZero.isSyntax = false := by
  have hvalid : (fresh.review (some ["count", "total"]) "total / count").isValid = true := by
    have htokens : Screen.forbiddenToken? "total / count".toList = none := rfl
    have hparentheses : Screen.checkParentheses "total / count".toList = .ok () := by decide +kernel
    have hread : Expression.ofText fresh.limits "total / count" = _ := ofText_quotient
    rw [review, Report.ofText, htokens, hparentheses, hread]
    decide +kernel
  have hfault : (fresh.evaluate noItems "total / count").1 = .error .divisionByZero := by
    rw [evaluate, auditRecord]
    change (Expression.ofText {} "total / count" >>= _) = _
    rw [ofText_quotient]
    decide +kernel
  have hdata : ∀ name ∈ ["count", "total"], (noItems.get? name).isSome := by
    decide +kernel
  exact ⟨hvalid, hfault, (evaluate_of_isValid fresh rfl _ _ hvalid noItems hdata _ hfault).1⟩

end Engine

end Formulary
