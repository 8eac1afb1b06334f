import Formulary.Proofs.Decimal.Rational
import Formulary.Value.Basic

/-!
# Sameness of values

`Value.Same` is an equivalence: on numbers because two of them are the same if they denote one rational, on
all other values because it is equality.
-/

namespace Formulary.Value

variable {v w u : Value}

theorem Same.refl (v : Value) : v.Same v := by
  cases v with
  | number a => exact Decimal.Same.refl a
  | _ => exact rfl

theorem Same.symm (h : v.Same w) : w.Same v := by
  cases v with
  | number a =>
    cases w with
    | number b => exact Decimal.Same.symm h
    | _ => exact nomatch h
  | _ => cases h; exact rfl

theorem Same.trans (h : v.Same w) (h' : w.Same u) : v.Same u := by
  cases v with
  | number a =>
    cases w with
    | number b =>
      cases u with
      | number c => exact Decimal.Same.trans h h'
      | _ => exact nomatch h'
    | _ => exact nomatch h
  | _ => cases h; exact h'

end Formulary.Value
