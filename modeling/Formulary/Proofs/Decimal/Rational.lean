import Formulary.Decimal.Basic
import Mathlib.Algebra.Field.Rat
import Mathlib.Algebra.Order.Ring.Rat
import Mathlib.Tactic.FieldSimp
import Mathlib.Tactic.NormNum
import Mathlib.Tactic.Ring

/-!
# The number that a decimal denotes

A decimal denotes a rational number (`Decimal.toRat`), and two decimals are the same number exactly when
they denote the same one (`Decimal.same_iff`). So sameness is an equivalence, and the shortest decimal of
a number is the same number (`Decimal.normalize_same`).
-/

namespace Formulary

theorem powerOfTen_cast (n : Nat) : (powerOfTen n : ℚ) = 10 ^ n := by
  induction n with
  | zero => rfl
  | succ n ih => rw [powerOfTen_succ, Nat.cast_mul, ih, pow_succ]; rfl

namespace Decimal

variable {a b c : Decimal}

/-- The number that a decimal denotes. -/
def toRat (a : Decimal) : ℚ := a.signed / 10 ^ a.scale

theorem signedAt_cast (a : Decimal) {places : Nat} (h : a.scale ≤ places) :
    (a.signedAt places : ℚ) = a.toRat * 10 ^ places := by
  obtain ⟨more, rfl⟩ := Nat.exists_eq_add_of_le h
  have hten : (10 : ℚ) ^ a.scale ≠ 0 := pow_ne_zero _ (by norm_num)
  rw [signedAt, Nat.add_sub_cancel_left, Int.cast_mul, Int.cast_natCast, powerOfTen_cast, toRat, pow_add]
  field_simp

/-- **The same number is the same rational.** -/
theorem same_iff : a.Same b ↔ a.toRat = b.toRat := by
  have hten : (10 : ℚ) ^ max a.scale b.scale ≠ 0 := pow_ne_zero _ (by norm_num)
  rw [Same, ← Int.cast_inj (α := ℚ), signedAt_cast a (Nat.le_max_left _ _),
    signedAt_cast b (Nat.le_max_right _ _)]
  exact mul_left_inj' hten

theorem Same.refl (a : Decimal) : a.Same a := same_iff.mpr rfl

theorem Same.symm (h : a.Same b) : b.Same a := same_iff.mpr (same_iff.mp h).symm

theorem Same.trans (h : a.Same b) (h' : b.Same c) : a.Same c :=
  same_iff.mpr ((same_iff.mp h).trans (same_iff.mp h'))

/-! ### The shortest decimal -/

theorem stripZeros_div (n s : Nat) :
    ((stripZeros n s).1 : ℚ) / 10 ^ (stripZeros n s).2 = n / 10 ^ s := by
  induction s generalizing n with
  | zero => rfl
  | succ s ih =>
    rw [stripZeros]
    split
    · next hzero =>
      -- a zero at the end is a factor ten in both parts
      have hn : (n : ℚ) = (n / 10 : Nat) * 10 := by
        rw [← Nat.cast_ofNat (R := ℚ), ← Nat.cast_mul, Nat.div_mul_cancel (Nat.dvd_of_mod_eq_zero hzero)]
      rw [ih, hn, pow_succ]
      field_simp
    · rfl

theorem toRat_strip (a : Decimal) : a.strip.toRat = a.toRat := by
  have h : (a.strip.coefficient : ℚ) / 10 ^ a.strip.scale = a.coefficient / 10 ^ a.scale :=
    stripZeros_div a.coefficient a.scale
  have hnegative : a.strip.negative = a.negative := rfl
  rw [toRat, toRat, signed, signed, hnegative]
  cases a.negative with
  | false => simpa using h
  | true => simpa [neg_div] using h

/-- The shortest decimal of a number is the same number. -/
theorem normalize_same (a : Decimal) : a.normalize.Same a := by
  rw [same_iff, normalize]
  split
  · next hzero =>
    have hcoefficient : a.coefficient = 0 := eq_of_beq hzero
    simp [toRat, signed, zero, hcoefficient]
  · exact toRat_strip a

end Decimal

end Formulary
