import Formulary.Proofs.Options.Deciding

/-!
# The walk carries out what an expression means

`OptionsRules.walk` treats the functions `IF`, `AND` and `OR` by their names, and evaluates at once what
calls no provider. `walk_eq_interpret` says that this is an implementation of `OptionsRules.interpret`: the
walk comes to the same outcome, and asks the providers for the same in the same order.

It is so for every registry in which a definition has one of those names exactly if it is that function
(`Definition.KnownByName`). The registry of all functions is one (`Registry.knownByName_builtin`). A function
that takes no arguments may have any name, for there is nothing in its calls to carry out
(`Definition.Recognized`).
-/

namespace Formulary

/-- A definition with the name of a lazy function that the walk knows is that function. -/
structure Definition.KnownByName (d : Definition) : Prop where
  /-- `IF` is the choice. -/
  ifElse : d.name = "IF" ↔ d.handler = .lazy .ifElse
  /-- `AND` is the conjunction. -/
  and : d.name = "AND" ↔ d.handler = .lazy .and
  /-- `OR` is the disjunction. -/
  or : d.name = "OR" ↔ d.handler = .lazy .or
  /-- A choice has a condition and a branch. -/
  least_ifElse : d.handler = .lazy .ifElse → 2 ≤ d.least
  /-- A test for null has one argument. -/
  arity_isNull : d.handler = .lazy .isNull → d.least = 1 ∧ d.most = some 1

/-- The walk takes a definition for what it is: by its name, or because it has no arguments to treat. -/
def Definition.Recognized (d : Definition) : Prop :=
  d.KnownByName ∨ (d.most = some 0 ∧ d.handler ≠ .external)

namespace Registry

theorem knownByName_builtin {name : String} {d : Definition} (h : builtin.find? name = some d) :
    d.KnownByName := by
  have hall : ∀ d ∈ Builtin.all, (d.name = "IF" ↔ d.handler = .lazy .ifElse) ∧
      (d.name = "AND" ↔ d.handler = .lazy .and) ∧ (d.name = "OR" ↔ d.handler = .lazy .or) ∧
        (d.handler = .lazy .ifElse → 2 ≤ d.least) ∧
          (d.handler = .lazy .isNull → d.least = 1 ∧ d.most = some 1) := by decide
  obtain ⟨hifElse, hand, hor, hleast, harity⟩ := hall d (mem_all_of_find?_builtin h)
  exact ⟨hifElse, hand, hor, hleast, harity⟩

end Registry

namespace OptionsRules

variable {rules : OptionsRules} {c : Context}

/-- A test for null of an argument that calls a provider, which is not a variable, looks at the value of
the argument. -/
theorem nullity_of_callsProvider {e : Expression} (h : rules.callsProvider e = true) :
    TracedOperand.nullity (rules.interpretOperands c [e]) =
      do return decide ((← rules.interpret c e) = .null) := by
  cases e with
  | literal _ => exact absurd h (by simp [callsProvider, Expression.functions, Expression.calls])
  | var _ => exact absurd h (by simp [callsProvider, Expression.functions, Expression.calls])
  | call _ _ => rfl

/-- The functions in a context are those of the rules, and the walk takes each for what it is. -/
structure Recognizes (rules : OptionsRules) (c : Context) : Prop where
  /-- The functions are those of the rules. -/
  registry_eq : c.registry = rules.registry
  /-- Each is taken for what it is. -/
  recognized : ∀ name d, rules.registry.find? name = some d → d.Recognized

mutual

/-- **The walk carries out what an expression means.** -/
theorem Recognizes.walk_eq (h : rules.Recognizes c) :
    ∀ e : Expression, rules.walk c e = rules.interpret c e
  | .literal v => by rw [walk, interpret, Context.evaluate, Traced.ofExcept_ok]
  | .var name => by rw [walk, interpret, Context.evaluate]
  | .call function arguments => by
    have hall := h.walkAll_eq arguments
    have hselection := h.walkSelection_eq arguments
    have hconjunction := h.walkUntil_eq_conjunction 0 arguments
    have hdisjunction := h.walkUntil_eq_disjunction 0 arguments
    rw [walk]
    split
    · next hasks =>
      rw [interpret]
      cases hresolve : c.resolve function arguments.length with
      | error fault => rfl
      | ok d =>
        obtain ⟨hfind, haccepts⟩ := Context.resolve_eq_ok hresolve
        rw [h.registry_eq] at hfind
        rcases h.recognized function d hfind with hd | ⟨hmost, hexternal⟩
        case inr =>
          -- without arguments the call asks only if its function is external
          have hnone : arguments = [] := List.length_eq_zero_iff.mp
            (Nat.le_zero.mp (haccepts.2 0 hmost))
          rw [hnone, callsProvider_call, hfind] at hasks
          exact absurd hasks (by simpa using hexternal)
        rw [Traced.ofExcept_ok, pure_bind, pure_bind]
        -- the walk asks for the name of the function, `interpret` for its handler
        cases hhandler : d.handler with
        | eager f =>
          simp only [hd.ifElse, hd.and, hd.or, hhandler, reduceCtorEq, if_false, hall]
          refine bind_congr fun values => ?_
          rw [Context.apply, hhandler]
        | external =>
          simp only [hd.ifElse, hd.and, hd.or, hhandler, reduceCtorEq, if_false, if_true, hall]
        | lazy f =>
          cases f with
          | ifElse =>
            rw [if_pos (hd.ifElse.mpr hhandler)]
            exact hselection (Nat.le_trans (hd.least_ifElse hhandler) haccepts.1)
          | and =>
            rw [hd.and.mpr hhandler, if_neg (by decide), if_pos rfl]
            exact hconjunction
          | or =>
            rw [hd.or.mpr hhandler, if_neg (by decide), if_neg (by decide), if_pos rfl]
            exact hdisjunction
          | isNull =>
            simp only [hd.ifElse, hd.and, hd.or, hhandler, reduceCtorEq, Handler.lazy.injEq,
              if_false, hall]
            obtain ⟨hleast, hmost⟩ := hd.arity_isNull hhandler
            have hlength : arguments.length = 1 :=
              Nat.le_antisymm (haccepts.2 1 hmost) (hleast ▸ haccepts.1)
            obtain ⟨e, rfl⟩ := List.length_eq_one_iff.mp hlength
            -- the function is not external, so its argument is what calls the provider
            have he : rules.callsProvider e = true := by
              simpa [callsProvider_call, hfind, hhandler] using hasks
            rw [Lazy.applyTraced, nullity_of_callsProvider he, interpretAll, interpretAll]
            simp only [bind_assoc, pure_bind]
            refine bind_congr fun v => ?_
            rw [Context.apply, hhandler]
            rfl
    · next hplain =>
      -- no provider anywhere in the call: the walk evaluates it at once
      exact (interpret_eq_evaluate h.registry_eq _ (Bool.eq_false_iff.mpr hplain)).symm

theorem Recognizes.walkAll_eq (h : rules.Recognizes c) :
    ∀ es : List Expression, rules.walkAll c es = rules.interpretAll c es
  | [] => by rw [walkAll, interpretAll]
  | e :: rest => by
    rw [walkAll, interpretAll, h.walk_eq e, h.walkAll_eq rest]

theorem Recognizes.walkSelection_eq (h : rules.Recognizes c) :
    ∀ es : List Expression, 2 ≤ es.length →
      rules.walkSelection c es = TracedOperand.selection (rules.interpretOperands c es)
  | condition :: chosen :: others, _ => by
    have hothers := h.walkFirst_eq others
    rw [walkSelection, h.walk_eq condition,
      h.walk_eq chosen, hothers]
    cases others <;> rfl

theorem Recognizes.walkFirst_eq (h : rules.Recognizes c) :
    ∀ es : List Expression, rules.walkFirst c es =
      match rules.interpretOperands c es with
      | other :: _ => other.value
      | [] => pure .null
  | [] => by rw [walkFirst, interpretOperands]
  | e :: rest => by
    rw [walkFirst, h.walk_eq e]
    rfl

theorem Recognizes.walkUntil_eq_conjunction (h : rules.Recognizes c) (position : Nat) :
    ∀ es : List Expression, rules.walkUntil c "AND" false position es =
      do return .boolean (← TracedOperand.conjunction position (rules.interpretOperands c es))
  | [] => by
    rw [walkUntil, interpretOperands]
    rfl
  | e :: rest => by
    rw [walkUntil, h.walk_eq e, h.walkUntil_eq_conjunction (position + 1) rest]
    change _ = TracedOperand.conjunction position (⟨_, _⟩ :: rules.interpretOperands c rest) >>= _
    -- both evaluate the first argument, decide whether it holds, and go on only then
    rw [TracedOperand.conjunction, bind_assoc]
    refine bind_congr fun v => ?_
    rw [bind_assoc]
    refine bind_congr fun holds => ?_
    cases holds with
    | false => simp
    | true => simp

theorem Recognizes.walkUntil_eq_disjunction (h : rules.Recognizes c) (position : Nat) :
    ∀ es : List Expression, rules.walkUntil c "OR" true position es =
      do return .boolean (← TracedOperand.disjunction position (rules.interpretOperands c es))
  | [] => by
    rw [walkUntil, interpretOperands]
    rfl
  | e :: rest => by
    rw [walkUntil, h.walk_eq e, h.walkUntil_eq_disjunction (position + 1) rest]
    change _ = TracedOperand.disjunction position (⟨_, _⟩ :: rules.interpretOperands c rest) >>= _
    rw [TracedOperand.disjunction, bind_assoc]
    refine bind_congr fun v => ?_
    rw [bind_assoc]
    refine bind_congr fun holds => ?_
    cases holds with
    | false => simp
    | true => simp

end

/-- Where every function is known by its name, the walk carries out what an expression means. -/
theorem walk_eq_interpret (hc : c.registry = rules.registry)
    (hknown : ∀ name d, rules.registry.find? name = some d → d.KnownByName) (e : Expression) :
    rules.walk c e = rules.interpret c e :=
  Recognizes.walk_eq ⟨hc, fun name d hfind => .inl (hknown name d hfind)⟩ e

/-- Rules with a service that is down. -/
def unserved : OptionsRules where
  now := .origin
  providers := { api := some fun _ _ => .error "down" }

/-- **The walk agrees with evaluation** on every expression, where the functions are the ones there are. It
comes to the same outcome and asks the providers for the same in the same order as `interpret`, which
without providers is evaluation. So no provider is asked in a branch that is not selected, nor behind an
argument that has decided. -/
theorem walk_eq_interpret_builtin (rules : OptionsRules) (hregistry : rules.registry = .builtin)
    (data : FormData) :
    (∀ e, rules.walk (rules.context data) e = rules.interpret (rules.context data) e) ∧
    (∀ e, rules.callsProvider e = false →
      rules.interpret (rules.context data) e = .ofExcept ((rules.context data).evaluate e)) ∧
    (∀ condition v holds, (rules.walk (rules.context data) condition).outcome = .ok v →
      v.condition "IF" 0 = .ok holds → ∀ chosen other,
        rules.walk (rules.context data) (.call "IF" [condition, chosen, other]) =
          ⟨(rules.walk (rules.context data) condition).calls ++
              (rules.walk (rules.context data) (if holds then chosen else other)).calls,
            (rules.walk (rules.context data) (if holds then chosen else other)).outcome⟩) ∧
    (∀ arguments, (rules.walk (rules.context data) (.call "AND" arguments)).outcome =
        .ok (.boolean false) → ∀ more,
      rules.walk (rules.context data) (.call "AND" (arguments ++ more)) =
        rules.walk (rules.context data) (.call "AND" arguments)) ∧
    ∀ arguments, (rules.walk (rules.context data) (.call "OR" arguments)).outcome =
        .ok (.boolean true) → ∀ more,
      rules.walk (rules.context data) (.call "OR" (arguments ++ more)) =
        rules.walk (rules.context data) (.call "OR" arguments) := by
  have hwalk : ∀ e, rules.walk (rules.context data) e = rules.interpret (rules.context data) e :=
    walk_eq_interpret rfl fun _ _ hfind => Registry.knownByName_builtin (hregistry ▸ hfind)
  -- what is left out can then be read off the meaning
  simp only [hwalk]
  refine ⟨fun _ => trivial, interpret_eq_evaluate rfl, ?_, ?_, ?_⟩
  · intro condition v holds hv hholds
    exact interpret_ifElse hregistry hv hholds
  · intro arguments h
    exact interpret_and_append hregistry h
  · intro arguments h
    exact interpret_or_append hregistry h

/-- The service that is down is not asked. -/
theorem walk_unserved_untaken :
    unserved.walk (unserved.context .empty) (.call "IF" [.literal (.boolean false),
      .call "API" [.literal (.string "/states")], .literal .null]) = pure .null := by
  have hchoice := (walk_eq_interpret_builtin unserved rfl .empty).2.2.1 (.literal (.boolean false))
    (.boolean false) false (by rw [walk]; rfl) rfl (.call "API" [.literal (.string "/states")])
    (.literal .null)
  rw [hchoice, if_neg (by decide), walk, walk]
  rfl

end OptionsRules

end Formulary
