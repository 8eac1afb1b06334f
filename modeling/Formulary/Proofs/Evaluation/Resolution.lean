import Mathlib.Data.List.Find
import Formulary.Evaluation
import Formulary.Proofs.Outcome

/-!
# Which function a call calls

A call that resolves to a definition has found it in the registry under its name, with a number of
arguments that it accepts (`Context.resolve_eq_ok`). The registry of all functions is searched as the list of
them is (`Registry.find?_builtin`), so that a property of what is found can be read off the list.
-/

namespace Formulary

namespace Registry

theorem get?_foldl_register (definitions : List Definition) (r : Registry) (name : String) :
    (definitions.foldl register r).get? name =
      (definitions.reverse.find? fun d => name = Text.upperString d.name).or (r.get? name) := by
  induction definitions generalizing r with
  | nil => rfl
  | cons first rest ih =>
    rw [List.foldl_cons, ih, register, NameMap.get?_insert, List.reverse_cons, List.find?_append,
      Option.or_assoc]
    by_cases h : name = Text.upperString first.name <;> simp [h]

/-- The functions have upper case names. -/
theorem upperString_name {d : Definition} (h : d ∈ Builtin.all) : Text.upperString d.name = d.name := by
  have hupper : ∀ d ∈ Builtin.all, Text.upperString d.name = d.name := by decide +kernel
  exact hupper d h

/-- The names under which the functions are registered are their own. -/
theorem find?_builtin (name : String) :
    builtin.find? name = Builtin.all.reverse.find? fun d => Text.upperString name = d.name := by
  rw [find?, builtin, get?_foldl_register, NameMap.get?_empty, Option.or_none]
  refine List.find?_congr fun d hd => ?_
  rw [upperString_name (List.mem_reverse.mp hd)]

/-- No two functions have one name, so each is found under its own. -/
theorem find?_builtin_of_mem {d : Definition} (h : d ∈ Builtin.all) : builtin.find? d.name = some d := by
  -- by looking at them all: the last one of a name is the only one
  have hfound : ∀ d ∈ Builtin.all, (Builtin.all.reverse.find? fun e => d.name = e.name) = some d := by
    decide +kernel
  rw [find?_builtin, upperString_name h]
  exact hfound d h

theorem mem_all_of_find?_builtin {name : String} {d : Definition}
    (h : builtin.find? name = some d) : d ∈ Builtin.all := by
  rw [find?_builtin] at h
  exact List.mem_reverse.mp (List.mem_of_find?_eq_some h)

end Registry

namespace Context

theorem resolve_eq_ok {c : Context} {function : String} {count : Nat} {d : Definition}
    (h : c.resolve function count = .ok d) :
    c.registry.find? function = some d ∧ d.Accepts count := by
  obtain ⟨found, hlookup, h⟩ := bind_eq_ok_iff.mp h
  obtain ⟨_, harity, h⟩ := bind_eq_ok_iff.mp h
  -- a function for options only, called elsewhere, does not resolve
  have hfound : found = d := by
    split at h
    · exact absurd (show Except.error (Fault.optionsOnly found.name) = .ok d from h) (by simp)
    · exact Except.ok.inj h
  subst hfound
  constructor
  · rw [Registry.lookup] at hlookup
    split at hlookup
    · next hfind => rw [hfind, Except.ok.inj hlookup]
    · exact absurd hlookup (by simp)
  · rw [Definition.checkArity] at harity
    split at harity
    · next haccepts => exact haccepts
    · exact absurd harity (by simp)

/-- A call of a function that takes the arguments and may be called here resolves to it. -/
theorem resolve_of_find? {c : Context} {function : String} {count : Nat} {d : Definition}
    (hfind : c.registry.find? function = some d) (haccepts : d.Accepts count)
    (hscope : (d.optionsOnly && c.scope != .options) = false) : c.resolve function count = .ok d := by
  rw [resolve, Registry.lookup, hfind, ok_bind, Definition.checkArity, if_pos haccepts, ok_bind,
    hscope]
  rfl

/-- A call of an eager function hands the values of its arguments to the function. -/
theorem evaluate_eager {c : Context} {function : String} {arguments : List Expression} {d : Definition}
    {f : Eager} (hresolve : c.resolve function arguments.length = .ok d) (hhandler : d.handler = .eager f) :
    c.evaluate (.call function arguments) =
      (do f.apply c.now (← d.coerceAll (← c.evaluateAll arguments))) := by
  rw [evaluate, hresolve, ok_bind, hhandler]

/-- So it is with the functions there are, where no options are asked for. -/
theorem evaluate_builtin {c : Context} (hc : c.registry = .builtin) {d : Definition} (hd : d ∈ Builtin.all)
    (hscope : d.optionsOnly = false) {f : Eager} (hhandler : d.handler = .eager f)
    {arguments : List Expression} (haccepts : d.Accepts arguments.length) :
    c.evaluate (.call d.name arguments) =
      (do f.apply c.now (← d.coerceAll (← c.evaluateAll arguments))) :=
  evaluate_eager (resolve_of_find? (hc ▸ Registry.find?_builtin_of_mem hd) haccepts
    (by rw [hscope, Bool.false_and])) hhandler

section Operands

variable {c : Context} {e e' : Expression} {v w : Value}

theorem evaluateAll_one (he : c.evaluate e = .ok v) : c.evaluateAll [e] = .ok [v] := by
  rw [evaluateAll, evaluateAll, he]
  rfl

theorem evaluateAll_two (he : c.evaluate e = .ok v) (he' : c.evaluate e' = .ok w) :
    c.evaluateAll [e, e'] = .ok [v, w] := by
  rw [evaluateAll, evaluateAll_one he', he]
  rfl

/-- A test is given the values as they are, since it wants any. -/
theorem evaluate_test (hc : c.registry = .builtin) {d : Definition} (hd : d ∈ Builtin.comparison)
    {f : Eager} (hhandler : d.handler = .eager f) (he : c.evaluate e = .ok v)
    (he' : c.evaluate e' = .ok w) : c.evaluate (.call d.name [e, e']) = f.apply c.now [v, w] := by
  have hall : ∀ d ∈ Builtin.comparison, d.optionsOnly = false ∧ d.Accepts 2 := by decide
  have hcoerce : ∀ d ∈ Builtin.comparison, d.coerceAll [v, w] = .ok [v, w] := by
    simp only [Builtin.comparison, List.forall_mem_cons]
    exact ⟨rfl, rfl, rfl, List.forall_mem_nil _⟩
  have hmem : d ∈ Builtin.all := by simp [Builtin.all, hd]
  have haccepts : d.Accepts [e, e'].length := (hall d hd).2
  rw [evaluate_builtin hc hmem (hall d hd).1 hhandler haccepts, evaluateAll_two he he', ok_bind,
    hcoerce d hd, ok_bind]

end Operands

end Context

end Formulary
