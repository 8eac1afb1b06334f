import Formulary.PowerOfTen

/-!
# Decimals of bounded precision

A `Decimal` is `± coefficient · 10 ^ (-scale)` with a coefficient below `2 ^ 96` and a scale of at
most 28. The scale is part of the value: `1.50` and `1.5` are different decimals that denote the
same number. Zero may carry a sign: negation can give it one, and so can rounding.

* `Decimal.make?` builds a decimal from its parts, `Decimal.fit?` rounds a longer coefficient.
* `Decimal.compare` orders by the number denoted and `Decimal.Same` is equality of that number;
  both look past the scale and the sign of zero.
* `Decimal.normalize` is the shortest decimal of a number.

## Implementation notes

The bounds are fields of the structure, so every operation that can leave them returns an `Option`.
-/

namespace Formulary

/-- The least coefficient that no decimal has: two to the power of 96. -/
def Decimal.limit : Nat := 79228162514264337593543950336

/-- The greatest number of places. -/
def Decimal.maxScale : Nat := 28

/-- A signed decimal with a 96-bit coefficient and at most 28 places. -/
structure Decimal where
  /-- Whether the sign is a minus. -/
  negative : Bool
  /-- The digits, without sign and point. -/
  coefficient : Nat
  /-- The number of places after the point. -/
  scale : Nat
  /-- The coefficient fits 96 bits. -/
  coefficient_lt : coefficient < Decimal.limit
  /-- There are at most 28 places. -/
  scale_le : scale ≤ Decimal.maxScale
deriving DecidableEq, Repr

namespace Decimal

/-- The decimal with these parts, if they are within bounds. A zero made this way has no sign. -/
def make? (negative : Bool) (coefficient scale : Nat) : Option Decimal :=
  if h : coefficient < limit ∧ scale ≤ maxScale then
    some ⟨negative && coefficient != 0, coefficient, scale, h.1, h.2⟩
  else none

/-- The number zero, without places. -/
def zero : Decimal := ⟨false, 0, 0, by decide, by decide⟩

/-- The number one, without places. -/
def one : Decimal := ⟨false, 1, 0, by decide, by decide⟩

/-- A natural number as a decimal without places, if it fits. -/
def ofNat? (n : Nat) : Option Decimal := make? false n 0

/-- An integer as a decimal without places, if it fits. -/
def ofInt? (n : Int) : Option Decimal := make? (decide (n < 0)) n.natAbs 0

/-- Whether the number denoted is zero. -/
def isZero (a : Decimal) : Bool := a.coefficient == 0

/-- The coefficient with its sign. -/
def signed (a : Decimal) : Int :=
  if a.negative then -(a.coefficient : Int) else a.coefficient

/-- The coefficient the number would have with `places` places, for `places` not below its scale. -/
def signedAt (a : Decimal) (places : Nat) : Int :=
  a.signed * powerOfTen (places - a.scale)

/-- Changes the sign, that of zero too. -/
def neg (a : Decimal) : Decimal := { a with negative := !a.negative }

instance : Neg Decimal := ⟨neg⟩

/-- The magnitude, at the same scale. -/
def abs (a : Decimal) : Decimal := { a with negative := false }

/-- Orders by the number denoted. -/
def compare (a b : Decimal) : Ordering :=
  Ord.compare (a.signedAt (max a.scale b.scale)) (b.signedAt (max a.scale b.scale))

/-- Two decimals are the same number when they differ at most in scale and in the sign of zero. -/
def Same (a b : Decimal) : Prop :=
  a.signedAt (max a.scale b.scale) = b.signedAt (max a.scale b.scale)

instance (a b : Decimal) : Decidable (Same a b) :=
  inferInstanceAs (Decidable (_ = _))

/-! ### Rounding a quotient -/

/-- The integer nearest to `n / d`; of two equally near ones the even. -/
def roundHalfEven (n d : Nat) : Nat :=
  let q := n / d
  let r := n % d
  if d < 2 * r ∨ (2 * r = d ∧ q % 2 = 1) then q + 1 else q

/-- The integer nearest to `n / d`; of two equally near ones the greater. -/
def roundHalfUp (n d : Nat) : Nat := (2 * n + d) / (2 * d)

/-- The fewest places of `n · 10 ^ (-scale)` that have to go so that what is left of the coefficient,
cut off, and of the scale fits a decimal. -/
def surplus? (n scale : Nat) : Option Nat :=
  (List.range (scale + 1)).find? fun r => scale ≤ r + maxScale && n / powerOfTen r < limit

/-- The decimal nearest to `± n · 10 ^ (-scale)` that keeps as many of its places as fit, a half going
to the even neighbour. There is none if the number itself is too large. -/
def fit? (negative : Bool) (n scale : Nat) : Option Decimal :=
  match surplus? n scale with
  | none => none
  | some r =>
    let q := roundHalfEven n (powerOfTen r)
    if q < limit then make? negative q (scale - r)
    else if r < scale then make? negative (roundHalfEven q 10) (scale - r - 1)
    else none

/-! ### Trailing zeros -/

/-- Drops trailing zeros of a coefficient while there are places to drop them from. -/
def stripZeros (coefficient : Nat) : Nat → Nat × Nat
  | 0 => (coefficient, 0)
  | scale + 1 =>
    if coefficient % 10 = 0 then stripZeros (coefficient / 10) scale else (coefficient, scale + 1)

theorem stripZeros_fst_le (n s : Nat) : (stripZeros n s).1 ≤ n := by
  induction s generalizing n with
  | zero => exact Nat.le_refl n
  | succ s ih =>
    simp only [stripZeros]
    split
    · exact Nat.le_trans (ih (n / 10)) (Nat.div_le_self n 10)
    · exact Nat.le_refl n

theorem stripZeros_snd_le (n s : Nat) : (stripZeros n s).2 ≤ s := by
  induction s generalizing n with
  | zero => exact Nat.le_refl 0
  | succ s ih =>
    simp only [stripZeros]
    split
    · exact Nat.le_succ_of_le (ih (n / 10))
    · exact Nat.le_refl _

/-- The same number without trailing zeros after the point. -/
def strip (a : Decimal) : Decimal where
  negative := a.negative
  coefficient := (stripZeros a.coefficient a.scale).1
  scale := (stripZeros a.coefficient a.scale).2
  coefficient_lt := Nat.lt_of_le_of_lt (stripZeros_fst_le _ _) a.coefficient_lt
  scale_le := Nat.le_trans (stripZeros_snd_le _ _) a.scale_le

/-- The shortest decimal of the number: no trailing zeros, and a zero without sign or places. -/
def normalize (a : Decimal) : Decimal :=
  if a.isZero then zero else a.strip

/-! ### Whole numbers -/

/-- The integer a decimal denotes, if it has no fractional part. -/
def toInt? (a : Decimal) : Option Int :=
  if a.coefficient % powerOfTen a.scale = 0 then
    let n : Int := (a.coefficient / powerOfTen a.scale : Nat)
    some (if a.negative then -n else n)
  else none

end Decimal

end Formulary
