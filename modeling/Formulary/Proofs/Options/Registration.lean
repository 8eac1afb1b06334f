import Formulary.Proofs.Options.Walk

/-!
# Functions under other names

A registry may be extended by copies of its functions: under names that no function has yet, or in the place
of `IF`, `AND` and `OR` (`Registry.Extended`). `Context.evaluate` goes by what stands behind a function and
not by its name. `OptionsRules.walk` goes by the name where it is one of those three.

`OptionsRules.walk_eq_interpret_iff` says in which of these registries the walk still carries out what an
expression means: exactly in those where every function that takes arguments has one of the three names just
if it is that function (`Definition.NamedForHandler`). In all others three kinds of calls give the difference
away:

* a choice, a conjunction or a disjunction under another name, with an argument that settles it in front of
  one that asks a provider;
* another function under one of the three names, with an argument that is no condition;
* the negation under one of the three names, with an argument that does not hold.
-/

namespace Formulary

/-- The name under which the walk looks for a lazy function. -/
def Lazy.walkedName : Lazy → Option String
  | .ifElse => some "IF"
  | .and => some "AND"
  | .or => some "OR"
  | .isNull => none

/-- A definition has the name of a function that the walk knows exactly if it is that function. -/
def Definition.NamedForHandler (d : Definition) : Prop :=
  ∀ f name, Lazy.walkedName f = some name → (d.name = name ↔ d.handler = .lazy f)

/-- The names that the walk knows. -/
def walkedNames : List String := ["IF", "AND", "OR"]

namespace Lazy

theorem mem_walkedNames {f : Lazy} {name : String} (h : f.walkedName = some name) :
    name ∈ walkedNames := by
  cases f with
  | isNull => exact absurd h (by simp [walkedName])
  | _ =>
    obtain rfl := Option.some.inj h
    decide

theorem walkedName_injective {f g : Lazy} {name : String} (hf : f.walkedName = some name)
    (hg : g.walkedName = some name) : f = g := by
  have hall : ∀ f g : Lazy, f.walkedName ≠ none → f.walkedName = g.walkedName → f = g := by
    intro f g
    cases f <;> cases g <;> decide
  exact hall f g (by simp [hf]) (hf.trans hg.symm)

end Lazy

namespace Registry

/-- A registry that comes from that of all functions by copies of functions, under further names or in the
place of those that the walk knows. -/
inductive Extended : Registry → Prop where
  | all : Extended .builtin
  | copy {r : Registry} {like name : String} {d : Definition} (h : Extended r)
      (hfind : r.find? like = some d)
      (hname : Registry.builtin.find? name = none ∨ Text.upperString name ∈ walkedNames) :
      Extended (r.register { d with name })

theorem find?_register (r : Registry) (d : Definition) (name : String) :
    (r.register d).find? name =
      if Text.upperString name = Text.upperString d.name then some d else r.find? name :=
  NameMap.get?_insert ..

namespace Extended

variable {r : Registry}

/-- Each function is one of all functions, but for its name. -/
theorem exists_builtin (h : r.Extended) {name : String} {d : Definition} (hfind : r.find? name = some d) :
    ∃ b ∈ Builtin.all, d = { b with name := d.name } := by
  induction h generalizing name d with
  | all => exact ⟨d, mem_all_of_find?_builtin hfind, rfl⟩
  | copy _ hlike _ ih =>
    rw [find?_register] at hfind
    split at hfind
    · obtain ⟨b, hb, heq⟩ := ih hlike
      obtain rfl := Option.some.inj hfind
      exact ⟨b, hb, by rw [heq]⟩
    · exact ih hfind

/-- What holds of all functions whatever their names are holds here too. -/
theorem forall_of_builtin (h : r.Extended) {name : String} {d : Definition} (hfind : r.find? name = some d)
    {P : Definition → Prop} (hall : ∀ b ∈ Builtin.all, P b)
    (hname : ∀ b, P b → P { b with name := d.name }) : P d := by
  obtain ⟨b, hb, heq⟩ := h.exists_builtin hfind
  rw [heq]
  exact hname b (hall b hb)

/-- The other functions stay where they are. -/
theorem find?_eq (h : r.Extended) {name : String} {d : Definition}
    (hfind : Registry.builtin.find? name = some d) (hwalked : Text.upperString name ∉ walkedNames) :
    r.find? name = some d := by
  induction h with
  | all => exact hfind
  | @copy _ _ other _ _ _ hother ih =>
    rw [find?_register, if_neg ?_, ih]
    intro heq
    rcases hother with hnone | hmem
    · rw [find?, ← heq] at hnone
      exact absurd (hfind.symm.trans hnone) (by simp)
    · rw [← heq] at hmem
      exact hwalked hmem

theorem find?_database (h : r.Extended) : r.find? "DATABASE" = some Builtin.options[2] :=
  h.find?_eq (find?_builtin_of_mem (d := Builtin.options[2]) (by decide)) (by decide)

theorem find?_equals (h : r.Extended) : r.find? "EQUALS" = some Builtin.comparison[0] :=
  h.find?_eq (find?_builtin_of_mem (d := Builtin.comparison[0]) (by decide)) (by decide)

end Extended

end Registry

/-! ### What gives the difference away -/

namespace OptionsRules

/-- Rules with a database that has no options. -/
def observer (r : Registry) : OptionsRules where
  registry := r
  now := .origin
  providers := { database := some fun _ _ => .ok [] }

/-- An expression that asks the database. -/
def asking : Expression := .call "DATABASE" [.literal (.string "")]

/-- An expression that asks the database and does not hold. -/
def doubting : Expression := .call "EQUALS" [asking, .literal .null]

/-- A computation that asks the database, and what comes of it. -/
def asked (v : Value) : Traced Value := ⟨[⟨.database, "", []⟩], .ok v⟩

/-- A computation that asks the database, and fails because its options are no condition. -/
def refused (function : String) : Traced Value :=
  ⟨[⟨.database, "", []⟩],
    .error (.formula (.typeMismatch function 1 .boolean (some .optionList)))⟩

/-- What asks is not quiet. -/
theorem asked_bind_ne_pure {α : Type} (v : Value) (next : Value → Traced α) (a : α) :
    (asked v >>= next) ≠ pure a := by
  intro h
  have hcalls := congrArg Traced.calls h
  rw [Traced.bind_of_outcome rfl] at hcalls
  exact absurd hcalls (by simp [asked, pure])

section Walk

variable {rules : OptionsRules} {c : Context} {function : String} {arguments : List Expression}
  {d : Definition}

theorem callsProvider_of_mem (h : ∃ e ∈ arguments, rules.callsProvider e = true) :
    rules.callsProvider (.call function arguments) = true := by
  rw [callsProvider_call, List.any_eq_true.mpr h, Bool.or_true]

theorem interpret_call (hresolve : c.resolve function arguments.length = .ok d) :
    rules.interpret c (.call function arguments) =
      match d.handler with
      | .eager f => do
        let values ← rules.interpretAll c arguments
        .ofExcept (do f.apply c.now (← d.coerceAll values))
      | .lazy f => f.applyTraced (rules.interpretOperands c arguments)
      | .external => do
        let values ← rules.interpretAll c arguments
        return .optionList (← rules.providers.options d.name values) := by
  cases hhandler : d.handler <;>
    rw [interpret, hresolve, Traced.ofExcept_ok, pure_bind, hhandler]

end Walk

/-- The options of the database in front of some nulls, as arguments of a function of values. -/
def askedArguments (count : Nat) : List Value := .optionList [] :: List.replicate count .null

/-- Whether a function of values turns those arguments down as no condition. -/
def turnsDown (d : Definition) (f : Eager) : Bool :=
  match d.coerceAll (askedArguments (d.least - 1)) >>= f.apply .origin with
  | .error fault => fault = .typeMismatch d.name 1 .boolean (some .optionList)
  | .ok _ => false

/-- Of all functions of values, only the negation wants a condition first. -/
theorem eq_not_of_turnsDown {b : Definition} (hb : b ∈ Builtin.all) {name : String}
    (hname : name ∈ walkedNames) {f : Eager} (hhandler : b.handler = .eager f)
    (hdown : turnsDown { b with name } f = true) : f = .not := by
  -- a table of all functions: the time and the data do not matter for these arguments
  have hall : ∀ b ∈ Builtin.all, ∀ name ∈ walkedNames,
      (match b.handler with
        | .eager f => f = .not || !turnsDown { b with name } f
        | _ => true) = true := by decide +kernel
  have hcheck := hall b hb name hname
  split at hcheck
  · next g hg =>
    obtain rfl := Handler.eager.inj (hhandler.symm.trans hg)
    simpa [hdown] using hcheck
  · next hother => exact absurd hhandler (hother f)

section Observer

variable {r : Registry}

theorem observer_resolve {name : String} {d : Definition} {count : Nat}
    (hfind : r.find? name = some d) (haccepts : d.Accepts count) :
    ((observer r).context .empty).resolve name count = .ok d :=
  Context.resolve_of_find? hfind haccepts (Bool.and_false _)

variable (h : r.Extended)
include h

theorem callsProvider_asking : (observer r).callsProvider asking = true := by
  rw [asking, callsProvider_call]
  change ((r.find? "DATABASE").any _ || _) = true
  rw [h.find?_database]
  rfl

theorem interpret_asking :
    (observer r).interpret ((observer r).context .empty) asking = asked (.optionList []) := by
  rw [asking, interpret_call (observer_resolve (h.find?_database) (by decide)),
    interpretAll, interpretAll, interpret]
  change (do return Value.optionList (← (observer r).providers.options "DATABASE" [.string ""])) = _
  rw [Providers.options, if_neg (by decide), if_pos (by decide)]
  rfl

theorem interpret_doubting :
    (observer r).interpret ((observer r).context .empty) doubting = asked (.boolean false) := by
  rw [doubting, interpret_call (observer_resolve (h.find?_equals) (by decide)),
    interpretAll, interpretAll, interpretAll, interpret_asking h, interpret]
  rfl

variable {d : Definition} {function : String}
  (hagree : ∀ e, (observer r).walk ((observer r).context .empty) e =
    (observer r).interpret ((observer r).context .empty) e)
  (hfind : r.find? function = some d)
include hagree

theorem walk_asking :
    (observer r).walk ((observer r).context .empty) asking = asked (.optionList []) :=
  (hagree asking).trans (interpret_asking h)

include hfind

/-- **An argument that settles a lazy function** settles it for the walk too, by the name. -/
theorem walked_of_settled {f : Lazy} (b : Bool) (settled : Value) (hhandler : d.handler = .lazy f)
    (haccepts : d.Accepts [Expression.literal (.boolean b), asking].length)
    (hsettled : f.applyTraced ((observer r).interpretOperands ((observer r).context .empty)
      [.literal (.boolean b), asking]) = pure settled) :
    (d.name = "IF" ∧ b = false ∧ settled = .null) ∨
      (d.name = "AND" ∧ b = false ∧ settled = .boolean false) ∨
        (d.name = "OR" ∧ b = true ∧ settled = .boolean true) := by
  have hasking := walk_asking h hagree
  have hresolve := observer_resolve hfind haccepts
  have hcall := hagree (.call function [.literal (.boolean b), asking])
  -- `asking` makes the call one that the walk takes apart by the function's name
  rw [walk_call (callsProvider_of_mem ⟨asking, by simp, callsProvider_asking h⟩) hresolve,
    interpret_call hresolve, hhandler] at hcall
  -- what the call means has settled without asking, so the walk must not ask either
  replace hcall := hcall.trans hsettled
  -- in each case the walk settles on the first argument, or it asks
  split at hcall
  · next hif =>
    cases b with
    | false => exact .inl ⟨hif, rfl, (Except.ok.inj (congrArg Traced.outcome hcall)).symm⟩
    | true =>
      change (observer r).walk _ asking = _ at hcall
      -- the branch is selected, so the walk asks
      rw [hasking, ← bind_pure (asked _)] at hcall
      exact absurd hcall (asked_bind_ne_pure _ _ _)
  split at hcall
  · next hand =>
    cases b with
    | false => exact .inr (.inl ⟨hand, rfl, (Except.ok.inj (congrArg Traced.outcome hcall)).symm⟩)
    | true =>
      change (observer r).walk _ asking >>= _ = _ at hcall
      rw [hasking] at hcall
      exact absurd hcall (asked_bind_ne_pure _ _ _)
  split at hcall
  · next hor =>
    cases b with
    | true => exact .inr (.inr ⟨hor, rfl, (Except.ok.inj (congrArg Traced.outcome hcall)).symm⟩)
    | false =>
      change (observer r).walk _ asking >>= _ = _ at hcall
      rw [hasking] at hcall
      exact absurd hcall (asked_bind_ne_pure _ _ _)
  · -- under any other name the walk evaluates all arguments, `asking` among them
    have hall : (observer r).walkAll ((observer r).context .empty) [.literal (.boolean b), asking] =
        asked (.optionList []) >>= fun v => pure [.boolean b, v] := by
      rw [walkAll, walkAll, walkAll, hasking]
      rfl
    rw [hall, bind_assoc] at hcall
    exact absurd hcall (asked_bind_ne_pure _ _ _)

/-- **A lazy function** has the name under which the walk looks for it. -/
theorem name_of_lazy {f : Lazy} {name : String} (hname : f.walkedName = some name)
    (hhandler : d.handler = .lazy f) : d.name = name := by
  -- each of the three takes two arguments, and so does a copy of it
  have haccepts : d.Accepts 2 := by
    have hall : ∀ b ∈ Builtin.all, b.handler = .lazy .ifElse ∨ b.handler = .lazy .and ∨
        b.handler = .lazy .or → b.Accepts 2 := by decide
    refine h.forall_of_builtin hfind hall (fun _ hb => hb) ?_
    cases f with
    | isNull => exact absurd hname (by simp [Lazy.walkedName])
    | ifElse => exact .inl hhandler
    | and => exact .inr (.inl hhandler)
    | or => exact .inr (.inr hhandler)
  -- a first argument that settles the function, in front of one that asks
  have hsettled (b : Bool) (settled : Value) :=
    walked_of_settled h hagree hfind b settled hhandler haccepts
  cases f with
  | isNull => exact absurd hname (by simp [Lazy.walkedName])
  | ifElse =>
    obtain rfl := Option.some.inj hname
    simpa using hsettled false .null rfl
  | and =>
    obtain rfl := Option.some.inj hname
    simpa using hsettled false (.boolean false) rfl
  | or =>
    obtain rfl := Option.some.inj hname
    simpa using hsettled true (.boolean true) rfl

/-- Under a name that the walk knows, a first argument that is no condition ends the call. -/
theorem walk_eq_refused (hname : d.name ∈ walkedNames) (rest : List Expression)
    (haccepts : d.Accepts (asking :: rest).length) :
    (observer r).walk ((observer r).context .empty) (.call function (asking :: rest)) =
      refused d.name := by
  have hasking := walk_asking h hagree
  rw [walk_call (callsProvider_of_mem ⟨asking, by simp, callsProvider_asking h⟩)
    (observer_resolve hfind haccepts)]
  -- whichever of the three names it is, the first argument has to be a condition and is an option list
  split
  · next hif =>
    rw [hif]
    cases rest with
    | nil =>
      rw [walkSelection, hasking]
      rfl
    | cons _ _ =>
      rw [walkSelection, hasking]
      rfl
  split
  · rw [walkUntil, hasking]
    rfl
  split
  · rw [walkUntil, hasking]
    rfl
  · next hif hand hor =>
    exact absurd hname (by simp [walkedNames, hif, hand, hor])

omit hagree hfind in
/-- The options of the database in front of some nulls. -/
theorem interpretAll_asking (count : Nat) :
    (observer r).interpretAll ((observer r).context .empty)
        (asking :: List.replicate count (.literal .null)) =
      asked (.optionList []) >>= fun v => pure (v :: List.replicate count .null) := by
  -- the nulls ask for nothing
  have hnulls : (observer r).interpretAll ((observer r).context .empty)
      (List.replicate count (.literal .null)) = pure (List.replicate count .null) := by
    induction count with
    | zero => rw [List.replicate_zero, interpretAll]; rfl
    | succ count ih =>
      rw [List.replicate_succ, interpretAll, ih, interpret]
      rfl
  rw [interpretAll, interpret_asking h, hnulls]
  rfl

/-- The negation has none of the names that the walk knows. -/
theorem ne_not_of_walkedName (hname : d.name ∈ walkedNames) : d.handler ≠ .eager .not := by
  intro hhandler
  obtain ⟨haccepts, hkind⟩ : d.Accepts [doubting].length ∧ d.kindAt 0 = .only .boolean := by
    have hall : ∀ b ∈ Builtin.all, b.handler = .eager .not →
        b.Accepts 1 ∧ b.kindAt 0 = .only .boolean := by decide
    exact h.forall_of_builtin hfind hall (fun _ hb => hb) hhandler
  have hcoerce : d.coerceAll [.boolean false] = .ok [.boolean false] := by
    rw [Definition.coerceAll, Definition.coerceFrom, hkind]
    rfl
  have hresolve := observer_resolve hfind haccepts
  have hasks : (observer r).callsProvider doubting = true :=
    callsProvider_of_mem ⟨asking, by simp, callsProvider_asking h⟩
  -- what the negation makes of a condition that does not hold, once the database has been asked
  have hmeans : (observer r).interpret ((observer r).context .empty) (.call function [doubting]) =
      asked (.boolean true) := by
    rw [interpret_call hresolve, hhandler]
    simp only [interpretAll, interpret_doubting h]
    change asked (.boolean false) >>= (fun v => Traced.ofExcept (d.coerceAll [v] >>= _)) = _
    rw [Traced.bind_of_outcome rfl, hcoerce]
    rfl
  -- the walk would have to come to the same, whatever name it goes by
  rw [← hagree, walk_call (callsProvider_of_mem ⟨doubting, by simp, hasks⟩) hresolve] at hmeans
  have hdoubting := (hagree doubting).trans (interpret_doubting h)
  have houtcome := congrArg Traced.outcome hmeans
  -- what does not hold selects nothing, and decides a conjunction and a disjunction of one
  split at houtcome
  · rw [walkSelection, hdoubting] at houtcome
    exact absurd (Except.ok.inj houtcome) (by decide)
  split at houtcome
  · next hand =>
    rw [walkUntil, hdoubting, hand] at houtcome
    exact absurd (Except.ok.inj houtcome) (by decide)
  split at houtcome
  · next hor =>
    rw [walkUntil, hdoubting, hor, walkUntil] at houtcome
    exact absurd (Except.ok.inj houtcome) (by decide)
  · next hif hand hor =>
    exact absurd hname (by simp [walkedNames, hif, hand, hor])

/-- **No other function** has a name that the walk knows. -/
theorem lazy_of_walkedName (hname : d.name ∈ walkedNames) (hmost : d.most ≠ some 0) :
    ∃ f, Lazy.walkedName f ≠ none ∧ d.handler = .lazy f := by
  -- as many arguments as the function wants at least, the first of them an option list
  have haccepts : d.Accepts (asking :: List.replicate (d.least - 1) (.literal .null)).length := by
    have hall : ∀ b ∈ Builtin.all, b.most ≠ some 0 → b.Accepts (b.least - 1 + 1) := by decide
    rw [List.length_cons, List.length_replicate]
    exact h.forall_of_builtin hfind hall (fun _ hb => hb) hmost
  have hrefused := walk_eq_refused h hagree hfind hname _ haccepts
  -- the walk refuses the call, so what the call means is a refusal too
  rw [hagree, interpret_call (observer_resolve hfind haccepts)] at hrefused
  have houtcome := congrArg Traced.outcome hrefused
  cases hhandler : d.handler with
  | lazy f =>
    cases f with
    | isNull =>
      -- a test for null takes the option list as it is, so it does not refuse the call
      have hleast : d.least = 1 := by
        have hall : ∀ b ∈ Builtin.all, b.handler = .lazy .isNull → b.least = 1 := by decide
        exact h.forall_of_builtin hfind hall (fun _ hb => hb) hhandler
      rw [hhandler, hleast] at houtcome
      change (TracedOperand.nullity [⟨false, (observer r).interpret _ asking⟩] >>= _).outcome = _
        at houtcome
      rw [interpret_asking h] at houtcome
      change Except.ok _ = Except.error _ at houtcome
      exact absurd houtcome (by simp)
    | ifElse => exact ⟨_, by simp [Lazy.walkedName], rfl⟩
    | and => exact ⟨_, by simp [Lazy.walkedName], rfl⟩
    | or => exact ⟨_, by simp [Lazy.walkedName], rfl⟩
  | external =>
    rw [hhandler] at houtcome
    simp only [interpretAll_asking h, bind_assoc, pure_bind] at houtcome
    -- the provider wants a text first
    have hkind := EngineFault.formula.inj (Except.error.inj houtcome)
    exact absurd hkind (by simp)
  | eager f =>
    rw [hhandler] at houtcome
    simp only [interpretAll_asking h, bind_assoc, pure_bind] at houtcome
    rw [Traced.bind_of_outcome rfl] at houtcome
    have hfails := Traced.ofExcept_outcome_eq_error houtcome
    -- a function of values that refuses the call can only be the negation, which has none of the names
    have hdown : turnsDown d f = true := by
      change (match d.coerceAll (askedArguments (d.least - 1)) >>= f.apply .origin with
        | .error fault => decide (fault = .typeMismatch d.name 1 .boolean (some .optionList))
        | .ok _ => false) = true
      rw [show d.coerceAll (askedArguments (d.least - 1)) >>= f.apply .origin = _ from hfails]
      exact decide_eq_true rfl
    obtain ⟨b, hb, heq⟩ := h.exists_builtin hfind
    obtain rfl := eq_not_of_turnsDown hb hname (heq ▸ hhandler) (heq ▸ hdown)
    exact absurd hhandler (ne_not_of_walkedName h hagree hfind hname)

/-- Where the walk agrees with what expressions mean, a function has one of the names that the walk knows
exactly if it is that function. -/
theorem namedForHandler_of_agrees (hmost : d.most ≠ some 0) : d.NamedForHandler := by
  intro f name hname
  constructor
  · -- a function under one of the names is one of the three, since it cannot refuse what they refuse otherwise
    intro heq
    obtain ⟨g, hg, hhandler⟩ :=
      lazy_of_walkedName h hagree hfind (heq ▸ Lazy.mem_walkedNames hname) hmost
    obtain ⟨other, hother⟩ := Option.ne_none_iff_exists'.mp hg
    -- that function goes by its own name, so it is the one in question
    obtain rfl : d.name = other := name_of_lazy h hagree hfind hother hhandler
    rw [hhandler, Lazy.walkedName_injective hname (heq ▸ hother)]
  · -- one of the three gives itself away by an argument that settles it
    intro hhandler
    exact name_of_lazy h hagree hfind hname hhandler

end Observer

/-- A copy of a function that takes arguments is known by its name if that is right. -/
theorem knownByName_of_namedForHandler {r : Registry} (h : r.Extended) {name : String} {d : Definition}
    (hfind : r.find? name = some d) (hd : d.NamedForHandler) : d.KnownByName := by
  have hall : ∀ b ∈ Builtin.all, (b.handler = .lazy .ifElse → 2 ≤ b.least) ∧
      (b.handler = .lazy .isNull → b.least = 1 ∧ b.most = some 1) := by decide
  obtain ⟨hleast, harity⟩ := h.forall_of_builtin hfind hall fun _ hb => hb
  exact ⟨hd .ifElse "IF" rfl, hd .and "AND" rfl, hd .or "OR" rfl, hleast, harity⟩

/-- **The walk carries out what expressions mean**, with the functions of an extended registry, exactly if
every function that takes arguments has one of the three names just if it is that function. What an
expression means is its value where it calls no provider, whatever the names are. -/
theorem walk_eq_interpret_iff {r : Registry} (h : r.Extended) :
    (∀ (rules : OptionsRules) (data : FormData), rules.registry = r →
      ∀ e, rules.callsProvider e = false →
        rules.interpret (rules.context data) e = .ofExcept ((rules.context data).evaluate e)) ∧
    ((∀ (rules : OptionsRules) (data : FormData), rules.registry = r →
        ∀ e, rules.walk (rules.context data) e = rules.interpret (rules.context data) e) ↔
      ∀ name d, r.find? name = some d → d.most ≠ some 0 → d.NamedForHandler) := by
  refine ⟨fun rules data _ e hplain => interpret_eq_evaluate rfl e hplain, ?_, ?_⟩
  · -- one observer with a database is enough to tell the names
    intro hagree name d hfind hmost
    exact namedForHandler_of_agrees h (hagree (observer r) .empty rfl) hfind hmost
  · rintro hnamed rules data rfl e
    refine Recognizes.walk_eq ⟨rfl, fun name d hfind => ?_⟩ e
    -- a function without arguments may have any name
    by_cases hmost : d.most = some 0
    · have hall : ∀ b ∈ Builtin.all, b.most = some 0 → b.handler ≠ .external := by decide
      exact .inr ⟨hmost, h.forall_of_builtin hfind hall (fun _ hb => hb) hmost⟩
    · exact .inl (knownByName_of_namedForHandler h hfind (hnamed name d hfind hmost))

/-- All functions, and the choice under one more name. -/
def choosing : Registry := Registry.builtin.register { Builtin.logical[0] with name := "CHOOSE" }

theorem extended_choosing : choosing.Extended :=
  .copy .all Registry.find?_builtin_lazy.1 (.inl (by rw [Registry.find?_builtin]; rfl))

theorem find?_choosing :
    choosing.find? "CHOOSE" = some { Builtin.logical[0] with name := "CHOOSE" } := by
  rw [choosing, Registry.find?_register, if_pos rfl]

/-- The walk goes wrong on a choice under another name. -/
theorem not_walk_eq_interpret_choosing :
    ¬ ∀ (rules : OptionsRules) (data : FormData), rules.registry = choosing →
      ∀ e, rules.walk (rules.context data) e = rules.interpret (rules.context data) e := by
  intro hagree
  -- the copy is the choice, but is not named `IF`
  have hnamed := (walk_eq_interpret_iff extended_choosing).2.mp hagree "CHOOSE" _ find?_choosing
    (by decide)
  exact absurd ((hnamed .ifElse "IF" rfl).mpr rfl) (by decide)

/-- Rules with a choice under one more name and a service that knows an option. -/
def served : OptionsRules where
  registry := choosing
  now := .origin
  providers := { api := some fun _ _ => .ok (.array [.string "x"]) }

/-- A choice under another name asks the service for the branch that it does not take. -/
theorem walk_asks_untaken :
    let e : Expression := .call "CHOOSE" [.literal (.boolean true),
      .literal (.optionList [.ofText "a"]), .call "API" [.literal (.string "/states")]]
    (served.walk (served.context .empty) e).calls = [⟨.api, "/states", []⟩] ∧
      served.interpret (served.context .empty) e = pure (.optionList [.ofText "a"]) := by
  have hapi : served.registry.find? "API" = some Builtin.options[1] :=
    extended_choosing.find?_eq (by rw [Registry.find?_builtin]; rfl) (by decide)
  have hserves : served.callsProvider (.call "API" [.literal (.string "/states")]) = true := by
    rw [callsProvider_call, hapi]
    rfl
  have hresolve : (served.context .empty).resolve "API" 1 = .ok Builtin.options[1] :=
    Context.resolve_of_find? hapi (by decide) rfl
  have hchoice : (served.context .empty).resolve "CHOOSE" 3 =
      .ok { Builtin.logical[0] with name := "CHOOSE" } :=
    Context.resolve_of_find? find?_choosing (by decide) rfl
  -- the service is asked and answers
  have hanswer : served.walk (served.context .empty) (.call "API" [.literal (.string "/states")]) =
      ⟨[⟨.api, "/states", []⟩], .ok (.optionList [.ofText "x"])⟩ := by
    rw [walk_call hserves hresolve, walkAll, walkAll, walk, Context.evaluate]
    change (do return Value.optionList (← (⟨[⟨.api, "/states", []⟩],
      (Traced.ofExcept (OptionList.ofDocument (.array [.string "x"]))).outcome⟩ : Traced _))) = _
    rw [OptionList.ofDocument]
    rfl
  constructor
  · -- under its other name the walk evaluates all arguments, the branch that is not taken among them
    rw [walk_call (callsProvider_of_mem ⟨_, by simp, hserves⟩) hchoice, walkAll, walkAll, walkAll,
      hanswer, walkAll]
    rfl
  · -- the choice itself looks at the branch that it takes, and at no other
    rw [interpret_lazy find?_choosing rfl rfl (by decide)]
    simp only [interpretOperands, interpret]
    rfl

end OptionsRules

end Formulary
