/-!
# Computations that may fail

How a chain of steps in `Except` comes apart: it succeeds exactly when every step does
(`bind_eq_ok_iff`), and the first failure is that of the chain (`error_bind`). What kind of fault a chain
can fail with is therefore known if it is known of each step (`FailsWith`), and what it yields if it is known of
the last (`Ends`).
-/

namespace Formulary

variable {ε α β γ : Type}

@[simp] theorem ok_bind (a : α) (next : α → Except ε β) : (Except.ok a >>= next) = next a := rfl

@[simp] theorem error_bind (fault : ε) (next : α → Except ε β) :
    (Except.error fault >>= next) = .error fault := rfl

theorem bind_eq_ok_iff {first : Except ε α} {next : α → Except ε β} {b : β} :
    (first >>= next) = .ok b ↔ ∃ a, first = .ok a ∧ next a = .ok b := by
  cases first with
  | error fault => simp
  | ok a => simp

theorem map_eq_ok_iff {first : Except ε α} {f : α → β} {b : β} :
    first.map f = .ok b ↔ ∃ a, first = .ok a ∧ f a = b := by
  cases first with
  | error fault => simp [Except.map]
  | ok a => simp [Except.map]

/-- A chain of steps over a list succeeds if every step does. -/
theorem mapM_map_eq_ok {f : α → β} {step : β → Except ε γ} {result : α → γ} {l : List α}
    (h : ∀ a ∈ l, step (f a) = .ok (result a)) : (l.map f).mapM step = .ok (l.map result) := by
  induction l with
  | nil => rfl
  | cons a l ih =>
    obtain ⟨ha, hl⟩ := List.forall_mem_cons.mp h
    rw [List.map_cons, List.mapM_cons, ha, ok_bind, ih hl]
    rfl

/-! ### Kinds of faults -/

/-- If the outcome is a fault, it is of that kind. -/
def FailsWith (P : ε → Prop) (outcome : Except ε α) : Prop :=
  ∀ fault, outcome = .error fault → P fault

namespace FailsWith

variable {P Q : ε → Prop}

theorem ok (a : α) : FailsWith P (.ok a) := fun _ h => nomatch h

theorem error {fault : ε} (h : P fault) : FailsWith P (.error fault : Except ε α) := by
  intro fault' h'
  obtain rfl := Except.error.inj h'
  exact h

theorem imp {outcome : Except ε α} (h : FailsWith P outcome) (himp : ∀ fault, P fault → Q fault) :
    FailsWith Q outcome :=
  fun fault hfault => himp fault (h fault hfault)

theorem bind {first : Except ε α} {next : α → Except ε β} (h : FailsWith P first)
    (hnext : ∀ a, first = .ok a → FailsWith P (next a)) : FailsWith P (first >>= next) := by
  cases first with
  | error fault => exact .error (h fault rfl)
  | ok a => exact hnext a rfl

theorem map {first : Except ε α} (h : FailsWith P first) (f : α → β) : FailsWith P (first.map f) := by
  cases first with
  | error fault => exact .error (h fault rfl)
  | ok a => exact .ok _

theorem ite {c : Prop} [Decidable c] {a b : Except ε α} (ha : FailsWith P a) (hb : FailsWith P b) :
    FailsWith P (if c then a else b) := by
  split
  · exact ha
  · exact hb

theorem mapM {f : α → Except ε β} {l : List α} (h : ∀ a ∈ l, FailsWith P (f a)) :
    FailsWith P (l.mapM f) := by
  induction l with
  | nil => exact .ok _
  | cons a rest ih =>
    obtain ⟨ha, hrest⟩ := List.forall_mem_cons.mp h
    rw [List.mapM_cons]
    exact ha.bind fun b _ => (ih hrest).bind fun bs _ => .ok _

end FailsWith

/-- The outcome is a value of which `Q` holds, or a fault of the kind `P`. -/
structure Ends (P : ε → Prop) (Q : α → Prop) (outcome : Except ε α) : Prop where
  /-- What it fails with. -/
  fails : FailsWith P outcome
  /-- What it yields. -/
  yields : ∀ a, outcome = .ok a → Q a

namespace Ends

variable {P : ε → Prop} {Q : α → Prop}

theorem ok {a : α} (h : Q a) : Ends P Q (.ok a) :=
  ⟨.ok a, fun _ ha => Except.ok.inj ha ▸ h⟩

theorem error {fault : ε} (h : P fault) : Ends P Q (.error fault : Except ε α) :=
  ⟨.error h, fun _ ha => nomatch ha⟩

theorem bind {first : Except ε β} {next : β → Except ε α} (h : FailsWith P first)
    (hnext : ∀ b, first = .ok b → Ends P Q (next b)) : Ends P Q (first >>= next) := by
  cases first with
  | error fault => exact .error (h fault rfl)
  | ok b => exact hnext b rfl

theorem andThen {first : Except ε β} {next : β → Except ε α} {R : β → Prop} (h : Ends P R first)
    (hnext : ∀ b, R b → Ends P Q (next b)) : Ends P Q (first >>= next) :=
  .bind h.fails fun b hb => hnext b (h.yields b hb)

theorem map {first : Except ε β} {f : β → α} (h : FailsWith P first) (hf : ∀ b, Q (f b)) :
    Ends P Q (first.map f) := by
  cases first with
  | error fault => exact .error (h fault rfl)
  | ok b => exact .ok (hf b)

theorem elim {read : Option β} {failure : Except ε α} {f : β → α} (h : Ends P Q failure)
    (hf : ∀ b, Q (f b)) : Ends P Q (read.elim failure (.ok ∘ f)) := by
  cases read with
  | none => exact h
  | some b => exact .ok (hf b)

theorem ite {c : Prop} [Decidable c] {a b : Except ε α} (ha : Ends P Q a) (hb : Ends P Q b) :
    Ends P Q (if c then a else b) := by
  split
  · exact ha
  · exact hb

end Ends

end Formulary
