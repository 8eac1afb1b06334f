import Formulary.Proofs.Decimal.Rational
import Mathlib.Algebra.Order.Field.Basic
import Mathlib.Tactic.Linarith

/-!
# Which numbers have a decimal

`Decimal.fit?` rounds a number of any length to a decimal. Two things can be said about it without a word on
how it rounds (`Decimal.Rounds`): it gives nothing exactly for numbers that are at least half a unit beyond
the greatest coefficient (`Decimal.Exceeds`), and what it gives is the number itself exactly if any decimal
is (`Decimal.Representable`).

The first is a matter of the whole part. For the second, a decimal of the number tells how many places can be
dropped as zeros, and the places that `fit?` drops are no more than these (`surplus?_of_representable`).
-/

namespace Formulary

theorem powerOfTen_pos (n : Nat) : 0 < powerOfTen n := Nat.pow_pos (by decide)

theorem powerOfTen_dvd {m n : Nat} (h : m ≤ n) : powerOfTen m ∣ powerOfTen n := Nat.pow_dvd_pow 10 h

namespace Decimal

/-- Some decimal denotes the number. -/
def Representable (q : ℚ) : Prop := ∃ d : Decimal, d.toRat = q

/-- The number is at least half a unit beyond the greatest coefficient, so that rounding leaves none. -/
def Exceeds (q : ℚ) : Prop := limit - 1 / 2 ≤ |q|

/-- What a decimal operation gives for a number: nothing exactly if the number is too large, and the number
itself exactly if a decimal denotes it. -/
structure Rounds (result : Option Decimal) (q : ℚ) : Prop where
  /-- Only what is too large has no result. -/
  eq_none_iff : result = none ↔ Exceeds q
  /-- What can be exact is. -/
  exact_iff : ∀ d ∈ result, d.toRat = q ↔ Representable q

/-! ### Signs -/

/-- A sign as a factor. -/
def signFactor (negative : Bool) : ℚ := if negative then -1 else 1

theorem abs_signFactor_mul (negative : Bool) (q : ℚ) : |signFactor negative * q| = |q| := by
  cases negative with
  | false => rw [signFactor, if_neg (by decide), one_mul]
  | true => rw [signFactor, if_pos rfl, neg_one_mul, abs_neg]

theorem toRat_eq (a : Decimal) : a.toRat = signFactor a.negative * (a.coefficient / 10 ^ a.scale) := by
  rw [toRat, signed, signFactor]
  cases a.negative with
  | false => simp
  | true => simp [neg_div]

theorem abs_toRat (a : Decimal) : |a.toRat| = a.coefficient / 10 ^ a.scale := by
  rw [toRat_eq, abs_signFactor_mul, abs_of_nonneg (by positivity)]

theorem Representable.abs {q : ℚ} (h : Representable q) : Representable |q| := by
  obtain ⟨d, rfl⟩ := h
  refine ⟨d.abs, ?_⟩
  rw [abs_toRat, toRat_eq]
  exact one_mul _

theorem toRat_make? {negative : Bool} {coefficient scale : Nat} {d : Decimal}
    (h : make? negative coefficient scale = some d) :
    d.toRat = signFactor negative * (coefficient / 10 ^ scale) := by
  rw [make?] at h
  split at h
  · obtain rfl := Option.some.inj h
    rw [toRat_eq]
    rcases Nat.eq_zero_or_pos coefficient with rfl | hpos
    · simp
    · rw [bne_iff_ne.mpr (Nat.ne_of_gt hpos), Bool.and_true]
  · exact absurd h (by simp)

theorem make?_isSome (negative : Bool) {coefficient scale : Nat} (hcoefficient : coefficient < limit)
    (hscale : scale ≤ maxScale) : ∃ d, make? negative coefficient scale = some d := by
  rw [make?, dif_pos ⟨hcoefficient, hscale⟩]
  exact ⟨_, rfl⟩

/-! ### The places that have to go -/

section Surplus

variable {n scale r : Nat}

theorem surplus?_eq_none_iff : surplus? n scale = none ↔ limit ≤ n / powerOfTen scale := by
  rw [surplus?, List.find?_eq_none]
  constructor
  · intro h
    simpa using h scale (by simp)
  · intro h r hr
    have hr : r ≤ scale := Nat.lt_succ_iff.mp (List.mem_range.mp hr)
    -- fewer places dropped leave more digits, so all are too many if the fewest are
    have hmore : n / powerOfTen scale ≤ n / powerOfTen r :=
      Nat.div_le_div_left (Nat.le_of_dvd (powerOfTen_pos _) (powerOfTen_dvd hr)) (powerOfTen_pos _)
    have hlarge : ¬n / powerOfTen r < limit := Nat.not_lt_of_le (Nat.le_trans h hmore)
    simp [hlarge]

theorem surplus?_eq_some (h : surplus? n scale = some r) :
    r ≤ scale ∧ scale ≤ r + maxScale ∧ n / powerOfTen r < limit ∧
      ∀ s, scale ≤ s + maxScale → n / powerOfTen s < limit → r ≤ s := by
  rw [surplus?, List.find?_range_eq_some] at h
  obtain ⟨hfits, hmem, hleast⟩ := h
  simp only [Bool.and_eq_true, decide_eq_true_eq, Bool.not_eq_true', Bool.and_eq_false_iff,
    decide_eq_false_iff_not, List.mem_range] at hfits hmem hleast
  refine ⟨Nat.lt_succ_iff.mp hmem, hfits.1, hfits.2, fun s hscale hs => ?_⟩
  by_contra hlt
  rcases hleast s (Nat.lt_of_not_le hlt) with hscale' | hs'
  · exact hscale' hscale
  · exact hs' hs

theorem Representable.magnitude {negative : Bool}
    (h : Representable (signFactor negative * (n / 10 ^ scale))) : Representable (n / 10 ^ scale) := by
  have habs := h.abs
  rwa [abs_signFactor_mul, abs_of_nonneg (by positivity)] at habs

/-- In whole numbers, the digits of a number are those of its decimal but for zeros. -/
theorem Representable.whole (h : Representable (n / 10 ^ scale)) :
    ∃ d : Decimal, n * powerOfTen d.scale = d.coefficient * powerOfTen scale := by
  obtain ⟨d, hd⟩ := h
  refine ⟨d, ?_⟩
  have habs := abs_toRat d
  rw [hd, abs_of_nonneg (by positivity), div_eq_div_iff (by positivity) (by positivity)] at habs
  rw [← Nat.cast_inj (R := ℚ)]
  push_cast [powerOfTen_cast]
  exact habs

/-- **The places that go are zeros** if a decimal denotes the number. -/
theorem surplus?_of_representable (h : Representable (n / 10 ^ scale)) :
    ∃ r, surplus? n scale = some r ∧ powerOfTen r ∣ n := by
  obtain ⟨d, hwhole⟩ := h.whole
  have hzeros : powerOfTen (scale - d.scale) ∣ n ∧ n / powerOfTen (scale - d.scale) < limit := by
    rcases Nat.le_total scale d.scale with hle | hle
    · -- the decimal has as many places or more, so that none has to go
      rw [Nat.sub_eq_zero_of_le hle, powerOfTen_zero, Nat.div_one]
      refine ⟨Nat.one_dvd n, Nat.lt_of_le_of_lt ?_ d.coefficient_lt⟩
      refine Nat.le_of_mul_le_mul_right ?_ (powerOfTen_pos scale)
      rw [← hwhole]
      exact Nat.mul_le_mul_left n (Nat.le_of_dvd (powerOfTen_pos _) (powerOfTen_dvd hle))
    · -- the decimal has fewer places, and those beyond them are zeros
      have hsplit : powerOfTen scale = powerOfTen (scale - d.scale) * powerOfTen d.scale := by
        change 10 ^ scale = 10 ^ (scale - d.scale) * 10 ^ d.scale
        rw [← Nat.pow_add, Nat.sub_add_cancel hle]
      have hn : n = d.coefficient * powerOfTen (scale - d.scale) := by
        refine Nat.eq_of_mul_eq_mul_right (powerOfTen_pos d.scale) ?_
        rw [hwhole, hsplit, Nat.mul_assoc]
      rw [hn, Nat.mul_div_cancel _ (powerOfTen_pos _)]
      exact ⟨Nat.dvd_mul_left _ _, d.coefficient_lt⟩
  have hscale : scale ≤ scale - d.scale + maxScale := by
    have := d.scale_le
    omega
  cases hsurplus : surplus? n scale with
  | none =>
    -- the zeros at the end could go and the rest would fit
    have hlarge := surplus?_eq_none_iff.mp hsurplus
    have hmore : n / powerOfTen scale ≤ n / powerOfTen (scale - d.scale) :=
      Nat.div_le_div_left (Nat.le_of_dvd (powerOfTen_pos _) (powerOfTen_dvd (Nat.sub_le _ _)))
        (powerOfTen_pos _)
    exact absurd hzeros.2 (by omega)
  | some r =>
    -- no more places go than these, and a power of ten divides the greater ones
    obtain ⟨-, -, -, hleast⟩ := surplus?_eq_some hsurplus
    exact ⟨r, rfl, Nat.dvd_trans (powerOfTen_dvd (hleast _ hscale hzeros.2)) hzeros.1⟩

end Surplus

/-! ### Rounding to a whole number -/

section Whole

variable {n d : Nat}

theorem roundHalfEven_of_dvd (h : d ∣ n) (hd : 0 < d) : roundHalfEven n d = n / d := by
  simp only [roundHalfEven, Nat.mod_eq_zero_of_dvd h]
  rw [if_neg]
  omega

theorem roundHalfEven_le (n d : Nat) : roundHalfEven n d ≤ n / d + 1 := by
  simp only [roundHalfEven]
  split
  · exact Nat.le_refl _
  · exact Nat.le_succ _

/-- A number below an even bound is rounded to the bound exactly if it comes within a half of it. -/
theorem le_roundHalfEven_iff (half : Nat) (hd : 0 < d) (h : n / d < 2 * half) :
    2 * half ≤ roundHalfEven n d ↔ (4 * half - 1) * d ≤ 2 * n := by
  have hn : d * (n / d) + n % d = n := Nat.div_add_mod n d
  have hmod : n % d < d := Nat.mod_lt n hd
  simp only [roundHalfEven]
  generalize n / d = q, n % d = r at *
  subst hn
  obtain ⟨last, rfl⟩ : ∃ last, half = last + 1 := ⟨half - 1, by omega⟩
  rcases Nat.lt_or_ge q (2 * last + 1) with hbelow | hlast
  · -- more than one away from the bound
    have hfar : 2 * (d * q + r) < (4 * (last + 1) - 1) * d :=
      calc 2 * (d * q + r) < 2 * (d * q + d) := by omega
        _ = 2 * (q + 1) * d := by ring
        _ ≤ (4 * (last + 1) - 1) * d := Nat.mul_le_mul_right d (by omega)
    split <;> omega
  · obtain rfl : q = 2 * last + 1 := by omega
    have hsplit : (4 * (last + 1) - 1) * d = 2 * (d * (2 * last + 1)) + d := by
      rw [show 4 * (last + 1) - 1 = 4 * last + 3 by omega]
      ring
    -- the last whole number before the bound is odd, so a half goes to the bound
    split <;> omega

end Whole

/-! ### Fitting a number -/

section Fit

variable {negative : Bool} {n scale : Nat}

theorem exceeds_iff : Exceeds (signFactor negative * (n / 10 ^ scale)) ↔
    (2 * limit - 1) * powerOfTen scale ≤ 2 * n := by
  have hten : (0 : ℚ) < 10 ^ scale := by positivity
  -- the bound on the number is put as one on whole numbers, which a decimal is computed with
  rw [Exceeds, abs_signFactor_mul, abs_of_nonneg (by positivity), le_div_iff₀ hten,
    ← Nat.cast_le (α := ℚ)]
  push_cast [powerOfTen_cast, show 1 ≤ 2 * limit by decide]
  constructor <;> intro h <;> linarith

/-- **What is fitted is exact** if anything is. -/
theorem fit?_of_representable (h : Representable (signFactor negative * (n / 10 ^ scale))) :
    ∃ d, fit? negative n scale = some d ∧ d.toRat = signFactor negative * (n / 10 ^ scale) := by
  obtain ⟨r, hsurplus, kept, rfl⟩ := surplus?_of_representable h.magnitude
  obtain ⟨hr, hscale, hlt, -⟩ := surplus?_eq_some hsurplus
  -- nothing but zeros goes, so rounding changes nothing
  have hrounded := roundHalfEven_of_dvd (Nat.dvd_mul_right (powerOfTen r) kept) (powerOfTen_pos r)
  rw [Nat.mul_div_cancel_left _ (powerOfTen_pos r)] at hlt hrounded
  obtain ⟨d, hd⟩ := make?_isSome negative hlt (show scale - r ≤ maxScale by omega)
  refine ⟨d, ?_, ?_⟩
  · rw [fit?, hsurplus]
    simp only [hrounded, if_pos hlt, hd]
  · obtain ⟨places, rfl⟩ := Nat.exists_eq_add_of_le hr
    rw [toRat_make? hd, Nat.add_sub_cancel_left, Nat.cast_mul, powerOfTen_cast, pow_add]
    field_simp

/-- Only what is too large does not fit. -/
theorem fit?_eq_none_iff :
    fit? negative n scale = none ↔ (2 * limit - 1) * powerOfTen scale ≤ 2 * n := by
  rw [fit?]
  cases hsurplus : surplus? n scale with
  | none =>
    have hlarge := (Nat.le_div_iff_mul_le (powerOfTen_pos _)).mp (surplus?_eq_none_iff.mp hsurplus)
    rw [limit] at hlarge ⊢
    exact iff_of_true rfl (by omega)
  | some r =>
    obtain ⟨hr, hscale, hlt, -⟩ := surplus?_eq_some hsurplus
    have hbound := le_roundHalfEven_iff (limit / 2) (powerOfTen_pos r) hlt
    change limit ≤ _ ↔ (2 * limit - 1) * powerOfTen r ≤ 2 * n at hbound
    have hbelow := Nat.div_lt_iff_lt_mul (powerOfTen_pos r) |>.mp hlt
    have hrounded := roundHalfEven_le n (powerOfTen r)
    simp only
    split
    · next hfits =>
      -- rounding did not come to the limit, so the number is more than a half below it
      obtain ⟨d, hd⟩ := make?_isSome negative hfits (show scale - r ≤ maxScale by omega)
      have hten : powerOfTen r ≤ powerOfTen scale :=
        Nat.le_of_dvd (powerOfTen_pos _) (powerOfTen_dvd hr)
      have hshort := mt hbound.mpr (Nat.not_le_of_lt hfits)
      rw [hd]
      rw [limit] at hshort ⊢
      exact iff_of_false (by simp) (by omega)
    split
    · next hfull hmore =>
      -- the digits come to the limit, and there is a place left to drop
      have hagain := roundHalfEven_le (roundHalfEven n (powerOfTen r)) 10
      obtain ⟨d, hd⟩ := make?_isSome negative
        (show roundHalfEven (roundHalfEven n (powerOfTen r)) 10 < limit by
          rw [limit] at hlt ⊢
          omega)
        (show scale - r - 1 ≤ maxScale by omega)
      have hten : powerOfTen r * 10 ≤ powerOfTen scale :=
        Nat.le_of_dvd (powerOfTen_pos _) (powerOfTen_dvd hmore)
      rw [hd]
      rw [limit] at hbelow ⊢
      exact iff_of_false (by simp) (by omega)
    · next hfull hlast =>
      -- no place is left to drop: it is the whole number that comes to the limit
      obtain rfl : r = scale := by omega
      exact iff_of_true rfl (hbound.mp (Nat.le_of_not_lt hfull))

/-- **Fitting a number** fails where it has to and is exact where it can be. -/
theorem fit?_rounds (negative : Bool) (n scale : Nat) :
    Rounds (fit? negative n scale) (signFactor negative * (n / 10 ^ scale)) where
  eq_none_iff := fit?_eq_none_iff.trans exceeds_iff.symm
  exact_iff := by
    intro d hd
    constructor
    · intro heq
      exact ⟨d, heq⟩
    · intro h
      obtain ⟨e, he, heq⟩ := fit?_of_representable h
      obtain rfl : e = d := Option.some.inj (he.symm.trans hd)
      exact heq

end Fit

end Decimal

end Formulary
