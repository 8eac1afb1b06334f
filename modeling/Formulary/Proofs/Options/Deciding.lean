import Formulary.Proofs.Options.Interpretation

/-!
# What a lazy function leaves out

A choice carries out its condition and the branch selected, and nothing of the other branch
(`interpret_ifElse`). Once an argument has decided a conjunction or a disjunction, those behind it may be
any: they are not carried out (`interpret_and_append`, `interpret_or_append`).
-/

namespace Formulary

namespace TracedOperand

variable {operands : List TracedOperand} {position : Nat}

/-- An argument that does not hold decides a conjunction. -/
theorem conjunction_append (h : (conjunction position operands).outcome = .ok false)
    (more : List TracedOperand) :
    conjunction position (operands ++ more) = conjunction position operands := by
  induction operands generalizing position with
  | nil => exact absurd h (by simp [conjunction, pure])
  | cons operand rest ih =>
    rw [conjunction] at h
    rw [List.cons_append, conjunction, conjunction]
    obtain ⟨v, hv, h⟩ := Traced.outcome_bind_eq_ok h
    obtain ⟨holds, hholds, h⟩ := Traced.outcome_bind_eq_ok h
    refine Traced.bind_congr_of_outcome hv (Traced.bind_congr_of_outcome hholds ?_)
    -- the first argument decides, or the others do
    cases holds with
    | false => rfl
    | true => exact ih h

/-- An argument that holds decides a disjunction. -/
theorem disjunction_append (h : (disjunction position operands).outcome = .ok true)
    (more : List TracedOperand) :
    disjunction position (operands ++ more) = disjunction position operands := by
  induction operands generalizing position with
  | nil => exact absurd h (by simp [disjunction, pure])
  | cons operand rest ih =>
    rw [disjunction] at h
    rw [List.cons_append, disjunction, disjunction]
    obtain ⟨v, hv, h⟩ := Traced.outcome_bind_eq_ok h
    obtain ⟨holds, hholds, h⟩ := Traced.outcome_bind_eq_ok h
    refine Traced.bind_congr_of_outcome hv (Traced.bind_congr_of_outcome hholds ?_)
    cases holds with
    | true => rfl
    | false => exact ih h

end TracedOperand

/-- The choice, the conjunction and the disjunction are there by their names. -/
theorem Registry.find?_builtin_lazy :
    builtin.find? "IF" = some Builtin.logical[0] ∧ builtin.find? "AND" = some Builtin.logical[1] ∧
      builtin.find? "OR" = some Builtin.logical[2] :=
  ⟨find?_builtin_of_mem (d := Builtin.logical[0]) (by decide),
    find?_builtin_of_mem (d := Builtin.logical[1]) (by decide),
    find?_builtin_of_mem (d := Builtin.logical[2]) (by decide)⟩

namespace OptionsRules

variable {rules : OptionsRules} {c : Context}

theorem interpretOperands_append (es more : List Expression) :
    rules.interpretOperands c (es ++ more) =
      rules.interpretOperands c es ++ rules.interpretOperands c more := by
  induction es with
  | nil => rw [interpretOperands, List.nil_append, List.nil_append]
  | cons e rest ih =>
    rw [List.cons_append]
    change (⟨_, _⟩ : TracedOperand) :: rules.interpretOperands c (rest ++ more) = _
    rw [ih]
    rfl

/-- A call of a lazy function is left to the function. -/
theorem interpret_lazy {function : String} {arguments : List Expression} {d : Definition} {f : Lazy}
    (hfind : c.registry.find? function = some d) (hscope : d.optionsOnly = false)
    (hhandler : d.handler = .lazy f) (haccepts : d.Accepts arguments.length) :
    rules.interpret c (.call function arguments) =
      f.applyTraced (rules.interpretOperands c arguments) := by
  have hresolve : c.resolve function arguments.length = .ok d :=
    Context.resolve_of_find? hfind haccepts (by rw [hscope, Bool.false_and])
  rw [interpret, hresolve, Traced.ofExcept_ok, pure_bind, hhandler]

/-- **A choice** carries out the condition and the branch that it selects. -/
theorem interpret_ifElse (hc : c.registry = .builtin) {condition : Expression} {v : Value}
    {holds : Bool} (hv : (rules.interpret c condition).outcome = .ok v)
    (hholds : v.condition "IF" 0 = .ok holds) (chosen other : Expression) :
    rules.interpret c (.call "IF" [condition, chosen, other]) =
      ⟨(rules.interpret c condition).calls ++
          (rules.interpret c (if holds then chosen else other)).calls,
        (rules.interpret c (if holds then chosen else other)).outcome⟩ := by
  have hfind : c.registry.find? "IF" = some Builtin.logical[0] :=
    hc ▸ Registry.find?_builtin_lazy.1
  rw [interpret_lazy hfind rfl rfl (by simp; decide)]
  change (rules.interpret c condition >>= _) = _
  rw [Traced.bind_of_outcome hv, hholds, Traced.ofExcept_ok, pure_bind]
  cases holds <;> rfl

/-- A call that yields a value may be given further arguments if its function takes any number. -/
theorem interpret_lazy_append {function : String} {d : Definition} {f : Lazy}
    (hfind : c.registry.find? function = some d) (hscope : d.optionsOnly = false)
    (hhandler : d.handler = .lazy f) (hmost : d.most = none) {arguments : List Expression} {v : Value}
    (h : (rules.interpret c (.call function arguments)).outcome = .ok v) (more : List Expression) :
    rules.interpret c (.call function arguments) =
        f.applyTraced (rules.interpretOperands c arguments) ∧
      rules.interpret c (.call function (arguments ++ more)) =
        f.applyTraced (rules.interpretOperands c arguments ++ rules.interpretOperands c more) := by
  -- a call with a number of arguments that its function does not take would have failed
  have haccepts : d.Accepts arguments.length := by
    rw [interpret] at h
    obtain ⟨d', hresolve, -⟩ := Traced.outcome_bind_eq_ok h
    obtain ⟨hfind', haccepts⟩ := Context.resolve_eq_ok (Traced.ofExcept_outcome_eq_ok hresolve)
    obtain rfl : d = d' := Option.some.inj (hfind.symm.trans hfind')
    exact haccepts
  have hmore : d.Accepts (arguments ++ more).length := by
    refine ⟨Nat.le_trans haccepts.1 (by simp), fun most hmem => ?_⟩
    rw [hmost] at hmem
    exact absurd hmem (by simp)
  rw [interpret_lazy hfind hscope hhandler haccepts, interpret_lazy hfind hscope hhandler hmore,
    interpretOperands_append]
  exact ⟨rfl, rfl⟩

/-- **Behind an argument that decides a conjunction** nothing is carried out. -/
theorem interpret_and_append (hc : c.registry = .builtin) {arguments : List Expression}
    (h : (rules.interpret c (.call "AND" arguments)).outcome = .ok (.boolean false))
    (more : List Expression) :
    rules.interpret c (.call "AND" (arguments ++ more)) =
      rules.interpret c (.call "AND" arguments) := by
  have hfind : c.registry.find? "AND" = some Builtin.logical[1] :=
    hc ▸ Registry.find?_builtin_lazy.2.1
  obtain ⟨hcall, hmore⟩ := interpret_lazy_append hfind rfl rfl rfl h more
  rw [hcall, Lazy.applyTraced] at h
  obtain ⟨holds, hholds, hv⟩ := Traced.outcome_bind_eq_ok h
  obtain rfl : holds = false := Value.boolean.inj (Except.ok.inj hv)
  rw [hcall, hmore, Lazy.applyTraced, Lazy.applyTraced, TracedOperand.conjunction_append hholds]

/-- **Behind an argument that decides a disjunction** nothing is carried out. -/
theorem interpret_or_append (hc : c.registry = .builtin) {arguments : List Expression}
    (h : (rules.interpret c (.call "OR" arguments)).outcome = .ok (.boolean true))
    (more : List Expression) :
    rules.interpret c (.call "OR" (arguments ++ more)) =
      rules.interpret c (.call "OR" arguments) := by
  have hfind : c.registry.find? "OR" = some Builtin.logical[2] :=
    hc ▸ Registry.find?_builtin_lazy.2.2
  obtain ⟨hcall, hmore⟩ := interpret_lazy_append hfind rfl rfl rfl h more
  rw [hcall, Lazy.applyTraced] at h
  obtain ⟨holds, hholds, hv⟩ := Traced.outcome_bind_eq_ok h
  obtain rfl : holds = true := Value.boolean.inj (Except.ok.inj hv)
  rw [hcall, hmore, Lazy.applyTraced, Lazy.applyTraced, TracedOperand.disjunction_append hholds]

end OptionsRules

end Formulary
