import Formulary.Proofs.Evaluation.Resolution

/-!
# Evaluation reads only the names of the expression

Two contexts with the same functions and the same scope may differ in what names stand for, and in the
time. An expression cannot tell them apart if they agree on the names that it mentions, and if the time
makes no difference to the functions that it calls (`Context.evaluate_eq_of_agree`). With the same time in
both the second condition is always met (`Context.evaluate_congr`), and then a text cannot tell them apart
either (`Context.evaluateText_congr`).

Agreement means that a name stands for the same value in both contexts or for nothing in both: `IS_NULL`
tells an absent name from one that is null.
-/

namespace Formulary

namespace Expression

/-- The variable names are the names mentioned; sorting and dropping repetitions loses none. -/
@[simp] theorem mem_variableNames {e : Expression} {name : String} :
    name ∈ e.variableNames ↔ name ∈ e.mentions := by
  rw [variableNames, NameMap.mem_names_ofList, List.map_map]
  exact iff_of_eq (congrArg (name ∈ ·) (List.map_id e.mentions))

end Expression

/-- A text spells an expression that mentions a name. -/
def TextMentions (limits : Limits) (text name : String) : Prop :=
  ∃ e, Expression.ofText limits text = .ok e ∧ name ∈ e.mentions

namespace Context

/-- Contexts in which a call calls the same function. -/
structure SameRules (c d : Context) : Prop where
  /-- The functions are the same. -/
  registry : c.registry = d.registry
  /-- The scope is the same. -/
  scope : c.scope = d.scope

/-- The function of that name, if it is one of values, yields the same at the times of both contexts. -/
def SameTimeFor (c d : Context) (function : String) : Prop :=
  ∀ definition f, c.registry.find? function = some definition → definition.handler = .eager f →
    ∀ arguments, f.apply c.now arguments = f.apply d.now arguments

/-- Contexts that differ in nothing but what names stand for. -/
structure SameSettings (c d : Context) : Prop extends SameRules c d where
  /-- The time is the same. -/
  now : c.now = d.now

variable {c d : Context}

theorem SameSettings.sameTimeFor (h : SameSettings c d) (function : String) :
    SameTimeFor c d function := by
  intro _ f _ _ arguments
  rw [h.now]

theorem SameRules.resolve (h : SameRules c d) (function : String) (count : Nat) :
    c.resolve function count = d.resolve function count := by
  rw [Context.resolve, Context.resolve, h.registry, h.scope]

theorem SameSettings.apply (h : SameSettings c d) (definition : Definition) (arguments : List Value) :
    c.apply definition arguments = d.apply definition arguments := by
  rw [Context.apply, Context.apply, h.now]

mutual

/-- **Evaluation reads only what the expression mentions**, and the time only through functions to which
it makes a difference. -/
theorem evaluate_eq_of_agree (h : SameRules c d) :
    ∀ e : Expression, (∀ name ∈ e.mentions, c.get? name = d.get? name) →
      (∀ call ∈ e.calls, SameTimeFor c d call.1) → c.evaluate e = d.evaluate e
  | .literal _, _, _ => rfl
  | .var name, hagree, _ => by
    have hname : c.get? name = d.get? name := hagree name (List.mem_singleton_self name)
    rw [evaluate, evaluate, lookup, lookup, hname]
  | .call function arguments, hagree, htime => by
    rw [Expression.calls, List.forall_mem_cons] at htime
    obtain ⟨hfunction, harguments⟩ := htime
    rw [evaluate, evaluate, ← h.resolve, evaluateAll_eq_of_agree h arguments hagree harguments,
      operands_eq_of_agree h arguments hagree harguments]
    cases hresolve : c.resolve function arguments.length with
    | error fault => rfl
    | ok definition =>
      rw [ok_bind, ok_bind]
      cases hhandler : definition.handler with
      | eager f =>
        -- the one place where the time comes in
        have hf := hfunction definition f (resolve_eq_ok hresolve).1 hhandler
        simp only [hf]
      | lazy f => rfl
      | external => rfl

theorem evaluateAll_eq_of_agree (h : SameRules c d) :
    ∀ es : List Expression, (∀ name ∈ Expression.mentionsOfAll es, c.get? name = d.get? name) →
      (∀ call ∈ Expression.callsOfAll es, SameTimeFor c d call.1) → c.evaluateAll es = d.evaluateAll es
  | [], _, _ => rfl
  | e :: rest, hagree, htime => by
    rw [Expression.mentionsOfAll, List.forall_mem_append] at hagree
    rw [Expression.callsOfAll, List.forall_mem_append] at htime
    rw [evaluateAll, evaluateAll, evaluate_eq_of_agree h e hagree.1 htime.1,
      evaluateAll_eq_of_agree h rest hagree.2 htime.2]

theorem operands_eq_of_agree (h : SameRules c d) :
    ∀ es : List Expression, (∀ name ∈ Expression.mentionsOfAll es, c.get? name = d.get? name) →
      (∀ call ∈ Expression.callsOfAll es, SameTimeFor c d call.1) → c.operands es = d.operands es
  | [], _, _ => rfl
  | e :: rest, hagree, htime => by
    rw [Expression.mentionsOfAll, List.forall_mem_append] at hagree
    rw [Expression.callsOfAll, List.forall_mem_append] at htime
    -- the defining equation of `operands` would split on whether `e` is a variable
    change (⟨_, c.evaluate e⟩ : Operand) :: c.operands rest = _
    rw [evaluate_eq_of_agree h e hagree.1 htime.1, operands_eq_of_agree h rest hagree.2 htime.2]
    rfl

end

/-- At one time an expression reads only what it mentions. -/
theorem evaluate_congr (h : SameSettings c d) (e : Expression)
    (hagree : ∀ name ∈ e.mentions, c.get? name = d.get? name) : c.evaluate e = d.evaluate e :=
  evaluate_eq_of_agree h.toSameRules e hagree fun call _ => h.sameTimeFor call.1

/-- A text reads only the names that it mentions. -/
theorem evaluateText_congr (h : SameSettings c d) {limits : Limits} {text : String}
    (hagree : ∀ name, TextMentions limits text name → c.get? name = d.get? name) :
    c.evaluateText limits text = d.evaluateText limits text := by
  rw [evaluateText, evaluateText]
  cases hread : Expression.ofText limits text with
  | error fault => rfl
  | ok e => exact evaluate_congr h e fun name hname => hagree name ⟨e, hread, hname⟩

end Context

end Formulary
