import Formulary.Options.Provider

/-!
# The laws of computations that ask providers

`Traced` is a lawful monad, and a computation that asks no provider keeps its place in it: `ofExcept` takes
a chain of steps to a chain of steps (`Traced.ofExcept_bind`).
-/

namespace Formulary.Traced

variable {α β : Type}

instance : LawfulMonad Traced := LawfulMonad.mk' Traced
  (fun t => by
    obtain ⟨calls, outcome⟩ := t
    cases outcome with
    | error fault => rfl
    | ok a => exact congrArg (Traced.mk · (.ok a)) (List.append_nil calls))
  (fun _ _ => rfl)
  (fun t next last => by
    obtain ⟨calls, outcome⟩ := t
    cases outcome with
    | error fault => rfl
    | ok a =>
      change bind (bind ⟨calls, .ok a⟩ next) last = bind ⟨calls, .ok a⟩ fun a => bind (next a) last
      cases hnext : (next a).outcome with
      | error fault => simp [bind, hnext]
      | ok b => simp [bind, hnext])

@[simp] theorem ofExcept_ok (a : α) : ofExcept (.ok a) = pure a := rfl

theorem ofExcept_bind (result : Except Fault α) (next : α → Except Fault β) :
    ofExcept (result >>= next) = ofExcept result >>= fun a => ofExcept (next a) := by
  cases result with
  | error fault => rfl
  | ok a => rfl

/-- A chain of steps of which none asks a provider is one that asks none. -/
theorem ofExcept_bind_congr {result : Except Fault α} {next : α → Traced β}
    {plain : α → Except Fault β} (h : ∀ a, next a = ofExcept (plain a)) :
    (ofExcept result >>= next) = ofExcept (result >>= plain) := by
  rw [ofExcept_bind]
  exact bind_congr h

/-- What a chain of two computations yields if the first succeeds. -/
theorem bind_of_outcome {t : Traced α} {a : α} (h : t.outcome = .ok a) (next : α → Traced β) :
    (t >>= next) = ⟨t.calls ++ (next a).calls, (next a).outcome⟩ := by
  change bind t next = _
  rw [bind, h]

theorem outcome_bind_eq_ok {t : Traced α} {next : α → Traced β} {b : β}
    (h : (t >>= next).outcome = .ok b) : ∃ a, t.outcome = .ok a ∧ (next a).outcome = .ok b := by
  cases ha : t.outcome with
  | error fault =>
    change (bind t next).outcome = _ at h
    simp [bind, ha] at h
  | ok a =>
    rw [bind_of_outcome ha] at h
    exact ⟨a, rfl, h⟩

theorem ofExcept_outcome_eq_ok {result : Except Fault α} {a : α}
    (h : (ofExcept result).outcome = .ok a) : result = .ok a := by
  cases result with
  | error fault =>
    change Except.error (EngineFault.formula fault) = .ok a at h
    exact absurd h (by simp)
  | ok b => exact congrArg Except.ok (Except.ok.inj h)

theorem ofExcept_outcome_eq_error {result : Except Fault α} {fault : Fault}
    (h : (ofExcept result).outcome = .error (.formula fault)) : result = .error fault := by
  cases result with
  | error other => exact congrArg Except.error (EngineFault.formula.inj (Except.error.inj h))
  | ok a =>
    change Except.ok a = .error _ at h
    exact absurd h (by simp)

/-- Only for what the first computation yields do two continuations have to agree. -/
theorem bind_congr_of_outcome {t : Traced α} {a : α} (ha : t.outcome = .ok a)
    {next other : α → Traced β} (h : next a = other a) : (t >>= next) = (t >>= other) := by
  rw [bind_of_outcome ha, bind_of_outcome ha, h]

end Formulary.Traced
