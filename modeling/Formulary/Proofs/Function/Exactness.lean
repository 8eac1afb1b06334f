import Formulary.Function.Arithmetic
import Formulary.Proofs.Decimal.Operations
import Formulary.Proofs.Outcome
import Mathlib.Algebra.BigOperators.Group.List.Basic

/-!
# When arithmetic is exact

`ADD` and `MULTIPLY` go through their arguments from the first, `SUBTRACT` takes two. Whatever the numbers,
each yields a number or reports an overflow. It yields the exact result or reports an overflow as long as the
result so far has a decimal, and stops at the first that has none (`Arithmetic.Settles`). This is all that
can be said: where a result so far has no decimal and is not too large, it is rounded, and what the function
yields for the arguments up to there is neither exact nor an overflow
(`Arithmetic.exact_or_overflow_iff`).
-/

namespace Formulary

/-- Numbers are taken from an argument list of numbers as from the list of numbers. -/
theorem Argument.foldNumbers_number {α : Type} (function : String)
    (step : α → Decimal → Except Fault α) (acc : α) (ns : List Decimal) (position : Nat) :
    foldNumbers function step position acc (ns.map .number) = (ns.drop position).foldlM step acc := by
  -- on the numbers that are still to come
  induction h : ns.drop position generalizing position acc with
  | nil =>
    have hle : ns.length ≤ position := List.drop_eq_nil_iff.mp h
    rw [foldNumbers, if_neg (by simpa using hle)]
    rfl
  | cons n rest ih =>
    have hlt : position < ns.length := by
      by_contra hle
      rw [List.drop_eq_nil_of_le (Nat.le_of_not_lt hle)] at h
      exact absurd h (by simp)
    rw [List.drop_eq_getElem_cons hlt] at h
    obtain ⟨rfl, hrest⟩ := List.cons.inj h
    have hnumber : number function (ns.map .number) position = .ok ns[position] := by
      rw [number, List.getElem?_map, List.getElem?_eq_getElem hlt]
      rfl
    rw [foldNumbers, if_pos (by simpa using hlt), hnumber, ok_bind, List.foldlM_cons]
    exact bind_congr fun acc => ih acc (position + 1) hrest

namespace Arithmetic

open Decimal

/-- The outcome of a function is the exact result or an overflow. -/
def ExactOrOverflow (function : String) (outcome : Except Fault Value) (q : ℚ) : Prop :=
  (∃ d, outcome = .ok (.number d) ∧ d.toRat = q) ∨ outcome = .error (.numericOverflow function)

/-- The outcome of a function is a number or an overflow. -/
def NumberOrOverflow (function : String) (outcome : Except Fault Value) : Prop :=
  (∃ d, outcome = .ok (.number d)) ∨ outcome = .error (.numericOverflow function)

/-- Going on from a number, each further result has a decimal until one is too large or all are through. -/
def Settles (op : ℚ → ℚ → ℚ) (q : ℚ) : List ℚ → Prop
  | [] => True
  | r :: rest => Exceeds (op q r) ∨ (Representable (op q r) ∧ Settles op (op q r) rest)

section Accumulation

variable {function : String} {step : Decimal → Decimal → Option Decimal} {op : ℚ → ℚ → ℚ}

theorem numberOrOverflow_foldlM (ns : List Decimal) (acc : Decimal) :
    NumberOrOverflow function
      ((ns.foldlM (fun a b => orOverflow function (step a b)) acc).map .number) := by
  induction ns generalizing acc with
  | nil => exact .inl ⟨acc, rfl⟩
  | cons n rest ih =>
    rw [List.foldlM_cons]
    cases step acc n with
    | none => exact .inr rfl
    | some d => exact ih d

variable (hstep : ∀ a b : Decimal, Rounds (step a b) (op a.toRat b.toRat))
include hstep

/-- **One step** is exact or an overflow exactly if the next result has a decimal or is too large. -/
theorem exactOrOverflow_step (a b : Decimal) :
    ExactOrOverflow function ((orOverflow function (step a b)).map .number) (op a.toRat b.toRat) ↔
      Representable (op a.toRat b.toRat) ∨ Exceeds (op a.toRat b.toRat) := by
  have hrounds := hstep a b
  cases hresult : step a b with
  | none =>
    exact iff_of_true (.inr rfl) (.inr (hrounds.eq_none_iff.mp hresult))
  | some d =>
    have hexact := hrounds.exact_iff d hresult
    -- a result that has been found is not too large
    have hfits : ¬Exceeds (op a.toRat b.toRat) := by
      rw [← hrounds.eq_none_iff, hresult]
      simp
    rw [or_iff_left hfits, ← hexact]
    simp [ExactOrOverflow, orOverflow, Except.map]

/-- **A run** is exact or an overflow, however far it goes, exactly if it settles. -/
theorem exactOrOverflow_foldlM (ns : List Decimal) (acc : Decimal) :
    (∀ k, ExactOrOverflow function
        (((ns.take k).foldlM (fun a b => orOverflow function (step a b)) acc).map .number)
        (((ns.take k).map toRat).foldl op acc.toRat)) ↔
      Settles op acc.toRat (ns.map toRat) := by
  induction ns generalizing acc with
  | nil =>
    refine iff_of_true (fun k => ?_) trivial
    rw [List.take_nil]
    exact .inl ⟨acc, rfl, rfl⟩
  | cons n rest ih =>
    have hrounds := hstep acc n
    rw [List.map_cons, Settles]
    constructor
    · intro h
      -- the run over the first number alone says that one step is exact or too large
      have hfirst : ExactOrOverflow function ((orOverflow function (step acc n)).map .number)
          (op acc.toRat n.toRat) := by
        have hone := h 1
        simp only [List.take_succ_cons, List.take_zero, List.foldlM_cons, List.foldlM_nil,
          bind_pure] at hone
        exact hone
      rcases (exactOrOverflow_step hstep acc n).mp hfirst with hnext | hlarge
      · obtain ⟨d, hd, hexact⟩ := hrounds.exists_of_representable hnext
        refine .inr ⟨hnext, ?_⟩
        rw [← hexact]
        -- runs over more numbers are runs from there on
        refine (ih d).mp fun k => ?_
        have hmore := h (k + 1)
        rw [List.take_succ_cons, List.foldlM_cons, hd, List.map_cons, List.foldl_cons, ← hexact] at hmore
        exact hmore
      · exact .inl hlarge
    · intro h k
      cases k with
      | zero => exact .inl ⟨acc, rfl, rfl⟩
      | succ k =>
        rw [List.take_succ_cons, List.foldlM_cons, List.map_cons, List.foldl_cons]
        rcases h with hlarge | ⟨hnext, hrest⟩
        · -- once a result is too large, the run is over
          rw [hrounds.eq_none_iff.mpr hlarge]
          exact .inr rfl
        · obtain ⟨d, hd, hexact⟩ := hrounds.exists_of_representable hnext
          rw [← hexact] at hrest ⊢
          rw [hd]
          exact (ih d).mpr hrest k

end Accumulation

/-! ### The functions -/

theorem add_numbers (ns : List Decimal) : add (ns.map .number) =
    (ns.foldlM (fun a b => orOverflow "ADD" (a.add? b)) .zero).map .number := by
  rw [add, Argument.foldNumbers_number, List.drop_zero]
  cases ns.foldlM (fun a b => orOverflow "ADD" (a.add? b)) Decimal.zero <;> rfl

theorem multiply_numbers (ns : List Decimal) : multiply (ns.map .number) =
    (ns.foldlM (fun a b => orOverflow "MULTIPLY" (a.mul? b)) .one).map .number := by
  rw [multiply, Argument.foldNumbers_number, List.drop_zero]
  cases ns.foldlM (fun a b => orOverflow "MULTIPLY" (a.mul? b)) Decimal.one <;> rfl

theorem subtract_numbers (a b : Decimal) : subtract [.number a, .number b] =
    (orOverflow "SUBTRACT" (a.sub? b)).map .number := by
  change (orOverflow "SUBTRACT" (a.sub? b) >>= _) = _
  cases orOverflow "SUBTRACT" (a.sub? b) <;> rfl

/-- **Arithmetic yields a number or reports an overflow**, whatever the numbers. For any numbers of which the
first so many are taken, the sum and the product are exact or an overflow exactly if they settle: if each
result so far has a decimal, up to one that is too large. A difference is exact or an overflow exactly if it
has a decimal or is too large. -/
theorem exact_or_overflow_iff (ns : List Decimal) (a b : Decimal) :
    (NumberOrOverflow "ADD" (add (ns.map .number)) ∧
      NumberOrOverflow "MULTIPLY" (multiply (ns.map .number)) ∧
        NumberOrOverflow "SUBTRACT" (subtract [.number a, .number b])) ∧
    ((∀ k, ExactOrOverflow "ADD" (add ((ns.take k).map .number)) ((ns.take k).map toRat).sum) ↔
      Settles (· + ·) 0 (ns.map toRat)) ∧
    ((∀ k, ExactOrOverflow "MULTIPLY" (multiply ((ns.take k).map .number))
        ((ns.take k).map toRat).prod) ↔ Settles (· * ·) 1 (ns.map toRat)) ∧
    (ExactOrOverflow "SUBTRACT" (subtract [.number a, .number b]) (a.toRat - b.toRat) ↔
      Representable (a.toRat - b.toRat) ∨ Exceeds (a.toRat - b.toRat)) := by
  -- a sum starts from zero and a product from one, as the functions do
  have hzero : Decimal.zero.toRat = 0 := isZero_iff.mp rfl
  have hone : Decimal.one.toRat = 1 := by norm_num [toRat, signed, one]
  simp only [add_numbers, multiply_numbers, subtract_numbers, List.sum_eq_foldl, List.prod_eq_foldl]
  refine ⟨⟨numberOrOverflow_foldlM ns _, numberOrOverflow_foldlM ns _, ?_⟩, ?_, ?_, ?_⟩
  · cases a.sub? b with
    | none => exact .inr rfl
    | some d => exact .inl ⟨d, rfl⟩
  · rw [← hzero]
    exact exactOrOverflow_foldlM add?_rounds ns .zero
  · rw [← hone]
    exact exactOrOverflow_foldlM mul?_rounds ns .one
  · exact @exactOrOverflow_step "SUBTRACT" Decimal.sub? (· - ·) sub?_rounds a b

/-- The greatest decimal. -/
def greatest : Decimal :=
  { zero with coefficient := 79228162514264337593543950335, coefficient_lt := by decide }

/-- A tenth. -/
def tenth : Decimal := { one with scale := 1, scale_le := Nat.le_add_left 1 27 }

/-- The greatest decimal and a tenth add up to the greatest decimal. -/
theorem add_drops_tenth : add [.number greatest, .number tenth] = .ok (.number greatest) ∧
    ¬ExactOrOverflow "ADD" (add [.number greatest, .number tenth]) (greatest.toRat + tenth.toRat) := by
  have hrounded : greatest.add? tenth = some greatest := rfl
  have hadd : add [.number greatest, .number tenth] = .ok (.number greatest) := by
    change add ([greatest, tenth].map .number) = _
    rw [add_numbers]
    change ((orOverflow "ADD" (greatest.add? tenth) >>= pure).map Value.number) = _
    rw [hrounded]
    rfl
  refine ⟨hadd, ?_⟩
  rw [hadd]
  -- the outcome is neither the exact sum nor an overflow
  rintro (⟨d, hd, hexact⟩ | hover)
  · obtain rfl := Value.number.inj (Except.ok.inj hd)
    norm_num [toRat, signed, greatest, tenth, zero, one] at hexact
  · exact absurd hover (by simp)

end Arithmetic

end Formulary
