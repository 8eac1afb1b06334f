import Formulary.Options.Resolver
import Formulary.Proofs.Evaluation.Resolution
import Formulary.Proofs.Options.Traced

/-!
# Evaluation with providers

What an expression for options means, put down as `Context.evaluate` is put down and with one case more: a
call of an external function evaluates its arguments from left to right and then asks the provider. Lazy
functions are given the computation of each argument and carry out only those that they decide on.

`OptionsRules.interpret` is this meaning. On expressions that call no provider it is evaluation
(`interpret_eq_evaluate`).
-/

namespace Formulary

/-- An argument of a lazy function that may ask providers. -/
structure TracedOperand where
  /-- Whether the argument is a variable. -/
  isVariable : Bool
  /-- What the argument evaluates to. -/
  value : Traced Value

/-- An argument that asks no provider. -/
def Operand.traced (operand : Operand) : TracedOperand :=
  ⟨operand.isVariable, .ofExcept operand.outcome⟩

namespace TracedOperand

/-- `Lazy.conjunction` with providers. -/
def conjunction (position : Nat) : List TracedOperand → Traced Bool
  | [] => pure true
  | operand :: rest => do
    let v ← operand.value
    if ← .ofExcept (v.condition "AND" position) then conjunction (position + 1) rest
    else return false

/-- `Lazy.disjunction` with providers. -/
def disjunction (position : Nat) : List TracedOperand → Traced Bool
  | [] => pure false
  | operand :: rest => do
    let v ← operand.value
    if ← .ofExcept (v.condition "OR" position) then return true
    else disjunction (position + 1) rest

/-- `Lazy.selection` with providers. -/
def selection : List TracedOperand → Traced Value
  | condition :: chosen :: others => do
    let v ← condition.value
    if ← .ofExcept (v.condition "IF" 0) then chosen.value
    else
      match others with
      | other :: _ => other.value
      | [] => return .null
  | arguments => .ofExcept (.error (.arityMismatch "IF" "2 to 3" arguments.length))

/-- `Lazy.nullity` with providers. -/
def nullity : List TracedOperand → Traced Bool
  | [operand] =>
    match operand.isVariable, operand.value.outcome with
    | true, .error _ => ⟨operand.value.calls, .ok true⟩
    | _, _ => do return decide ((← operand.value) = .null)
  | arguments => .ofExcept (.error (.arityMismatch "IS_NULL" "1" arguments.length))

end TracedOperand

/-- `Lazy.apply` with providers. -/
def Lazy.applyTraced (arguments : List TracedOperand) : Lazy → Traced Value
  | .ifElse => TracedOperand.selection arguments
  | .and => do return .boolean (← TracedOperand.conjunction 0 arguments)
  | .or => do return .boolean (← TracedOperand.disjunction 0 arguments)
  | .isNull => do return .boolean (← TracedOperand.nullity arguments)

namespace OptionsRules

mutual

/-- What an expression for options means. -/
def interpret (rules : OptionsRules) (c : Context) : Expression → Traced Value
  | .literal v => pure v
  | .var name => .ofExcept (c.lookup name)
  | .call function arguments => do
    let d ← .ofExcept (c.resolve function arguments.length)
    match d.handler with
    | .eager f => do
      let values ← rules.interpretAll c arguments
      .ofExcept (do f.apply c.now (← d.coerceAll values))
    | .lazy f => f.applyTraced (rules.interpretOperands c arguments)
    | .external => do
      let values ← rules.interpretAll c arguments
      return .optionList (← rules.providers.options d.name values)

/-- The values of expressions, from left to right. -/
def interpretAll (rules : OptionsRules) (c : Context) : List Expression → Traced (List Value)
  | [] => return []
  | e :: rest => do
    let v ← rules.interpret c e
    return v :: (← rules.interpretAll c rest)

/-- Expressions as arguments of a lazy function. -/
def interpretOperands (rules : OptionsRules) (c : Context) : List Expression → List TracedOperand
  | [] => []
  | e :: rest => ⟨e matches .var _, rules.interpret c e⟩ :: rules.interpretOperands c rest

end

end OptionsRules

/-! ### Lazy functions of arguments that ask no provider -/

namespace TracedOperand

theorem conjunction_traced (operands : List Operand) (position : Nat) :
    conjunction position (operands.map Operand.traced) =
      .ofExcept (Lazy.conjunction position operands) := by
  induction operands generalizing position with
  | nil => rfl
  | cons operand rest ih =>
    rw [List.map_cons, conjunction, Lazy.conjunction]
    refine Traced.ofExcept_bind_congr fun v => Traced.ofExcept_bind_congr fun holds => ?_
    -- the first argument that does not hold ends it
    cases holds with
    | false => rfl
    | true => exact ih (position + 1)

theorem disjunction_traced (operands : List Operand) (position : Nat) :
    disjunction position (operands.map Operand.traced) =
      .ofExcept (Lazy.disjunction position operands) := by
  induction operands generalizing position with
  | nil => rfl
  | cons operand rest ih =>
    rw [List.map_cons, disjunction, Lazy.disjunction]
    refine Traced.ofExcept_bind_congr fun v => Traced.ofExcept_bind_congr fun holds => ?_
    cases holds with
    | false => exact ih (position + 1)
    | true => rfl

theorem selection_traced (operands : List Operand) :
    selection (operands.map Operand.traced) = .ofExcept (Lazy.selection operands) := by
  match operands with
  | [] => rfl
  | [condition] => rfl
  | condition :: chosen :: others =>
    simp only [List.map_cons, selection, Lazy.selection]
    refine Traced.ofExcept_bind_congr fun v => Traced.ofExcept_bind_congr fun holds => ?_
    -- only the value that is chosen is asked for, and where the second is missing there is none
    cases holds with
    | true => rfl
    | false =>
      cases others with
      | nil => rfl
      | cons other _ => rfl

theorem nullity_traced (operands : List Operand) :
    nullity (operands.map Operand.traced) = .ofExcept (Lazy.nullity operands) := by
  match operands with
  | [] => rfl
  | [operand] =>
    obtain ⟨isVariable, outcome⟩ := operand
    cases isVariable <;> cases outcome <;> rfl
  | first :: second :: rest =>
    rw [List.map_cons, List.map_cons, nullity, Lazy.nullity]
    · simp
    · simp
    · simp

end TracedOperand

/-- **A lazy function does the same** with arguments that ask no provider. -/
theorem Lazy.applyTraced_traced (f : Lazy) (operands : List Operand) :
    f.applyTraced (operands.map Operand.traced) = .ofExcept (f.apply operands) := by
  cases f with
  | ifElse => exact TracedOperand.selection_traced operands
  | and =>
    rw [applyTraced, apply, TracedOperand.conjunction_traced]
    cases conjunction 0 operands <;> rfl
  | or =>
    rw [applyTraced, apply, TracedOperand.disjunction_traced]
    cases disjunction 0 operands <;> rfl
  | isNull =>
    rw [applyTraced, apply, TracedOperand.nullity_traced]
    cases nullity operands <;> rfl

/-! ### Expressions that call no provider -/

theorem Expression.any_callsOfAll (test : String × Nat → Bool) (es : List Expression) :
    (callsOfAll es).any test = es.any fun e => e.calls.any test := by
  induction es with
  | nil => rfl
  | cons e rest ih => rw [callsOfAll, List.any_append, ih, List.any_cons]

namespace OptionsRules

variable {rules : OptionsRules} {c : Context}

theorem callsProvider_call (function : String) (arguments : List Expression) :
    rules.callsProvider (.call function arguments) =
      ((rules.registry.find? function).any (fun d => d.handler = .external) ||
        arguments.any rules.callsProvider) := by
  have hcalls : rules.callsProvider = fun e => e.calls.any fun call =>
      (rules.registry.find? call.1).any fun d => d.handler = .external :=
    funext fun e => List.any_map
  simp only [hcalls, Expression.calls, List.any_cons, Expression.any_callsOfAll]

/-- A call asks no provider if its function is not external and no argument asks one. -/
theorem callsProvider_call_eq_false_iff {function : String} {arguments : List Expression} :
    rules.callsProvider (.call function arguments) = false ↔
      (∀ d, rules.registry.find? function = some d → d.handler ≠ .external) ∧
        ∀ e ∈ arguments, rules.callsProvider e = false := by
  rw [callsProvider_call, Bool.or_eq_false_iff, List.any_eq_false]
  -- the part about the arguments is the same on both sides
  refine and_congr ?_ (by simp)
  cases rules.registry.find? function with
  | none => simp
  | some d => simp

/-- What the walk makes of a call that asks a provider, by the name of its function. -/
theorem walk_call {function : String} {arguments : List Expression} {d : Definition}
    (hasks : rules.callsProvider (.call function arguments) = true)
    (hresolve : c.resolve function arguments.length = .ok d) :
    rules.walk c (.call function arguments) =
      (if d.name = "IF" then rules.walkSelection c arguments
      else if d.name = "AND" then rules.walkUntil c d.name false 0 arguments
      else if d.name = "OR" then rules.walkUntil c d.name true 0 arguments
      else do
        let values ← rules.walkAll c arguments
        if d.handler = .external then
          return .optionList (← rules.providers.options d.name values)
        else .ofExcept (c.apply d values)) := by
  rw [walk, if_pos hasks, hresolve, Traced.ofExcept_ok, pure_bind]

mutual

/-- **Without providers an expression means what it evaluates to.** -/
theorem interpret_eq_evaluate (hc : c.registry = rules.registry) :
    ∀ e : Expression, rules.callsProvider e = false →
      rules.interpret c e = .ofExcept (c.evaluate e)
  | .literal v, _ => by rw [interpret, Context.evaluate, Traced.ofExcept_ok]
  | .var name, _ => by rw [interpret, Context.evaluate]
  | .call function arguments, h => by
    obtain ⟨hfunction, harguments⟩ := callsProvider_call_eq_false_iff.mp h
    rw [interpret, Context.evaluate]
    cases hresolve : c.resolve function arguments.length with
    | error fault => rfl
    | ok d =>
      -- the function that the call resolves to is one that `callsProvider` has looked at
      have hexternal : d.handler ≠ .external :=
        hfunction d (hc ▸ (Context.resolve_eq_ok hresolve).1)
      rw [Traced.ofExcept_ok, pure_bind, ok_bind]
      cases hhandler : d.handler with
      | eager f =>
        simp only
        rw [interpretAll_eq_evaluateAll hc arguments harguments]
        exact Traced.ofExcept_bind_congr fun _ => rfl
      | lazy f =>
        simp only
        rw [interpretOperands_eq_operands hc arguments harguments, f.applyTraced_traced]
      | external => exact absurd hhandler hexternal

theorem interpretAll_eq_evaluateAll (hc : c.registry = rules.registry) :
    ∀ es : List Expression, (∀ e ∈ es, rules.callsProvider e = false) →
      rules.interpretAll c es = .ofExcept (c.evaluateAll es)
  | [], _ => by rw [interpretAll, Context.evaluateAll, Traced.ofExcept_ok]
  | e :: rest, h => by
    obtain ⟨hfirst, hrest⟩ := List.forall_mem_cons.mp h
    rw [interpretAll, Context.evaluateAll, interpret_eq_evaluate hc e hfirst,
      interpretAll_eq_evaluateAll hc rest hrest]
    exact Traced.ofExcept_bind_congr fun _ => Traced.ofExcept_bind_congr fun _ => rfl

theorem interpretOperands_eq_operands (hc : c.registry = rules.registry) :
    ∀ es : List Expression, (∀ e ∈ es, rules.callsProvider e = false) →
      rules.interpretOperands c es = (c.operands es).map Operand.traced
  | [], _ => by rw [interpretOperands, Context.operands, List.map_nil]
  | e :: rest, h => by
    obtain ⟨hfirst, hrest⟩ := List.forall_mem_cons.mp h
    -- the defining equation of `operands` would split on whether `e` is a variable
    change (⟨_, rules.interpret c e⟩ : TracedOperand) :: rules.interpretOperands c rest = _
    rw [interpret_eq_evaluate hc e hfirst, interpretOperands_eq_operands hc rest hrest]
    rfl

end

end OptionsRules

end Formulary
