import Formulary.Decimal.Arithmetic
import Formulary.Proofs.Decimal.Rounding

/-!
# Sum, difference and product of decimals

Each of the three operations fails exactly where the exact result is too large for a decimal, and gives the
exact result exactly where a decimal denotes it (`add?_rounds`, `sub?_rounds`, `mul?_rounds`). In particular
the shortcuts that they take make no difference: an operand that is zero is passed over, and a product of
short operands with too many places is zero at once, for no decimal comes near it.
-/

namespace Formulary.Decimal

variable {q : ℚ} {result : Option Decimal}

theorem not_exceeds_toRat (a : Decimal) : ¬Exceeds a.toRat := by
  have hscale : (1 : ℚ) ≤ 10 ^ a.scale := one_le_pow₀ (by norm_num)
  have hcoefficient : (a.coefficient : ℚ) + 1 ≤ limit := by exact_mod_cast a.coefficient_lt
  rw [Exceeds, abs_toRat, not_le]
  calc (a.coefficient : ℚ) / 10 ^ a.scale ≤ a.coefficient := div_le_self (by positivity) hscale
    _ < limit - 1 / 2 := by linarith

/-- What has a decimal is found. -/
theorem Rounds.exists_of_representable (h : Rounds result q) (hq : Representable q) :
    ∃ d, result = some d ∧ d.toRat = q := by
  cases hresult : result with
  | none =>
    obtain ⟨d, rfl⟩ := hq
    exact absurd (h.eq_none_iff.mp hresult) (not_exceeds_toRat d)
  | some d => exact ⟨d, rfl, (h.exact_iff d hresult).mpr hq⟩

/-- A decimal is a result for the number that it denotes. -/
theorem rounds_self (a : Decimal) : Rounds (some a) a.toRat where
  eq_none_iff := iff_of_false (by simp) (not_exceeds_toRat a)
  exact_iff := by
    rintro d hd
    obtain rfl : a = d := Option.some.inj hd
    exact iff_of_true rfl ⟨a, rfl⟩

/-- A result may be given another form that denotes the same. -/
theorem Rounds.map (h : Rounds result q) {f : Decimal → Decimal}
    (hf : ∀ d ∈ result, (f d).toRat = d.toRat) : Rounds (result.map f) q where
  eq_none_iff := Option.map_eq_none_iff.trans h.eq_none_iff
  exact_iff := by
    intro e he
    obtain ⟨d, hd, rfl⟩ := Option.map_eq_some_iff.mp he
    rw [hf d hd]
    exact h.exact_iff d hd

theorem isZero_iff {a : Decimal} : a.isZero = true ↔ a.toRat = 0 := by
  rw [← abs_eq_zero, abs_toRat, div_eq_zero_iff, or_iff_left (by positivity), isZero, beq_iff_eq,
    Nat.cast_eq_zero]

/-! ### Sums -/

theorem signFactor_natAbs (n : Int) : signFactor (decide (n < 0)) * n.natAbs = n := by
  rw [signFactor]
  rcases lt_or_ge n 0 with hneg | hnonneg
  · rw [if_pos (decide_eq_true hneg), neg_one_mul, Nat.cast_natAbs, abs_of_neg hneg, Int.cast_neg, neg_neg]
  · rw [if_neg (by simpa using hnonneg), one_mul, Nat.cast_natAbs, abs_of_nonneg hnonneg]

theorem signFactor_bne (a b : Bool) : signFactor (a != b) = signFactor a * signFactor b := by
  cases a <;> cases b <;> simp [signFactor]

theorem toRat_neg (a : Decimal) : (-a).toRat = -a.toRat := by
  have hflip : signFactor (!a.negative) = -signFactor a.negative := by
    rw [← Bool.bne_true, signFactor_bne]
    exact mul_neg_one _
  rw [toRat_eq, toRat_eq, ← neg_mul, ← hflip]
  rfl

/-- **A sum** fails where it has to and is exact where it can be. -/
theorem add?_rounds (a b : Decimal) : Rounds (a.add? b) (a.toRat + b.toRat) := by
  rw [add?]
  split
  · next hzero =>
    rw [isZero_iff.mp hzero, zero_add]
    exact rounds_self b
  split
  · next hzero =>
    rw [isZero_iff.mp hzero, add_zero]
    exact rounds_self a
  · -- neither is zero: both are brought to the greater number of places and added as whole numbers
    have hsum : a.toRat + b.toRat =
        ((a.signedAt (max a.scale b.scale) + b.signedAt (max a.scale b.scale) : Int) : ℚ) /
          10 ^ max a.scale b.scale := by
      rw [Int.cast_add, signedAt_cast a (Nat.le_max_left _ _), signedAt_cast b (Nat.le_max_right _ _)]
      field_simp
    rw [hsum, ← signFactor_natAbs, mul_div_assoc]
    exact fit?_rounds _ _ _

/-- **A difference** fails where it has to and is exact where it can be. -/
theorem sub?_rounds (a b : Decimal) : Rounds (a.sub? b) (a.toRat - b.toRat) := by
  rw [sub?]
  split
  · next hzero =>
    rw [isZero_iff.mp hzero, sub_zero]
    split
    · next hzero' =>
      rw [isZero_iff.mp hzero', ← isZero_iff.mp hzero]
      exact rounds_self b
    · exact rounds_self a
  · rw [sub_eq_add_neg, ← toRat_neg]
    exact add?_rounds a (-b)

/-! ### Products -/

theorem fit?_negative {negative : Bool} {n scale : Nat} {d : Decimal}
    (h : fit? negative n scale = some d) : d.negative = (negative && d.coefficient != 0) := by
  -- every way through ends in a decimal that is made from its parts
  have hmake {coefficient places : Nat} (hmake : make? negative coefficient places = some d) :
      d.negative = (negative && d.coefficient != 0) := by
    rw [make?] at hmake
    split at hmake
    · obtain rfl := Option.some.inj hmake
      rfl
    · exact absurd hmake (by simp)
  rw [fit?] at h
  split at h
  · exact absurd h (by simp)
  simp only at h
  split at h
  · exact hmake h
  split at h
  · exact hmake h
  · exact absurd h (by simp)

/-- The sign of the exact product makes a difference only to a zero. -/
theorem toRat_withSign {negative : Bool} {n scale : Nat} {d : Decimal}
    (h : fit? negative n scale = some d) :
    Decimal.toRat { d with negative := negative } = d.toRat := by
  rw [toRat_eq, toRat_eq, fit?_negative h]
  rcases Nat.eq_zero_or_pos d.coefficient with hzero | hpos
  · simp [hzero]
  · rw [bne_iff_ne.mpr (Nat.ne_of_gt hpos), Bool.and_true]

/-- A product of short operands with more than 47 places has no decimal but is far from too large. -/
theorem rounds_zero {negative : Bool} {n scale : Nat} (hpos : 0 < n) (hn : n < wordSize * wordSize)
    (hscale : 47 < scale) : Rounds (some zero) (signFactor negative * (n / 10 ^ scale)) := by
  -- the product has twenty digits at most, and the first of them stands behind 28 zeros at least
  have hten : 1000000000000000000000000000000000000000000000000 ≤ powerOfTen scale :=
    Nat.le_of_dvd (powerOfTen_pos _) (powerOfTen_dvd hscale)
  have hnone : ¬Representable (signFactor negative * (n / 10 ^ scale)) := by
    intro h
    obtain ⟨d, hd⟩ := h.magnitude.whole
    have hdigit : 0 < d.coefficient := by
      by_contra hzero
      rw [Nat.eq_zero_of_not_pos hzero, Nat.zero_mul] at hd
      exact absurd hd (Nat.mul_pos hpos (powerOfTen_pos _)).ne'
    have hplaces : powerOfTen d.scale ≤ 10000000000000000000000000000 :=
      Nat.le_of_dvd (by decide) (powerOfTen_dvd d.scale_le)
    -- a decimal has 28 places at most, which is not enough for one digit of the product
    have hle : powerOfTen scale ≤ n * 10000000000000000000000000000 :=
      calc powerOfTen scale ≤ d.coefficient * powerOfTen scale := Nat.le_mul_of_pos_left _ hdigit
        _ = n * powerOfTen d.scale := hd.symm
        _ ≤ n * 10000000000000000000000000000 := Nat.mul_le_mul_left n hplaces
    rw [wordSize] at hn
    omega
  constructor
  · refine iff_of_false (by simp) ?_
    rw [exceeds_iff]
    rw [limit]
    rw [wordSize] at hn
    omega
  · rintro d hd
    obtain rfl : zero = d := Option.some.inj hd
    exact iff_of_false (fun heq => hnone ⟨zero, heq⟩) hnone

/-- **A product** fails where it has to and is exact where it can be. -/
theorem mul?_rounds (a b : Decimal) : Rounds (a.mul? b) (a.toRat * b.toRat) := by
  rw [mul?]
  split
  · next hzero =>
    -- the product with a zero is that zero which has no places and no minus
    have hproduct : a.toRat * b.toRat = zero.toRat := by
      rw [Bool.or_eq_true, isZero_iff, isZero_iff] at hzero
      rw [mul_eq_zero.mpr hzero]
      exact (isZero_iff.mp rfl).symm
    rw [hproduct]
    exact rounds_self zero
  · next hzero =>
    have hproduct : a.toRat * b.toRat = signFactor (a.negative != b.negative) *
        ((a.coefficient * b.coefficient : Nat) / 10 ^ (a.scale + b.scale)) := by
      rw [toRat_eq a, toRat_eq b, signFactor_bne, Nat.cast_mul, pow_add]
      field_simp
    rw [hproduct]
    have hfit := fit?_rounds (a.negative != b.negative) (a.coefficient * b.coefficient) (a.scale + b.scale)
    simp only
    split
    · next hshort =>
      split
      · -- short operands with too many places: the product is cut to zero
        next hplaces =>
        rw [Bool.and_eq_true, isShort, isShort, decide_eq_true_eq, decide_eq_true_eq] at hshort
        rw [Bool.or_eq_true, not_or, isZero, isZero, beq_iff_eq, beq_iff_eq] at hzero
        exact rounds_zero
          (Nat.mul_pos (Nat.pos_of_ne_zero hzero.1) (Nat.pos_of_ne_zero hzero.2))
          (Nat.mul_lt_mul'' hshort.1 hshort.2) hplaces
      · exact hfit
    · -- of long operands the sign is set once more, which makes a difference to a zero only
      exact hfit.map fun d hd => toRat_withSign hd

end Formulary.Decimal
