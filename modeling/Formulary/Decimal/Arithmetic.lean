import Formulary.Decimal.Basic

/-!
# Arithmetic on decimals

Sum, difference and product keep every place of the exact result that fits, and round the rest half
to even; `none` says that the result is too large. A zero operand is passed over: the sum with zero
is the other operand as it stands, and a product with zero is zero without places. A product that is
rounded to zero may keep its sign.

A quotient that comes out even at the difference of the scales stays there. Any other is carried on,
several places at a time, until it comes out even or no place is left, is rounded half to even, and
loses trailing zeros in groups.
-/

namespace Formulary.Decimal

/-- The sum, or `none` if it is too large. -/
def add? (a b : Decimal) : Option Decimal :=
  if a.isZero then some b
  else if b.isZero then some a
  else
    let places := max a.scale b.scale
    let sum := a.signedAt places + b.signedAt places
    fit? (decide (sum < 0)) sum.natAbs places

/-- The difference, or `none` if it is too large. -/
def sub? (a b : Decimal) : Option Decimal :=
  if b.isZero then some (if a.isZero then b else a) else add? a (-b)

/-- Two to the power of 32. -/
def wordSize : Nat := 4294967296

/-- Whether the coefficient is below `2 ^ 32`. -/
def isShort (a : Decimal) : Bool := decide (a.coefficient < wordSize)

/-- The product, or `none` if it is too large. A product that comes to nothing within 28 places is a
zero: without a sign if both operands are short, and then without places too if their scales add up
to more than 47, but with the sign of the exact product otherwise. -/
def mul? (a b : Decimal) : Option Decimal :=
  if a.isZero || b.isZero then some zero
  else
    let negative := a.negative != b.negative
    let scale := a.scale + b.scale
    let product := fit? negative (a.coefficient * b.coefficient) scale
    if a.isShort && b.isShort then
      if 47 < scale then some zero else product
    else product.map fun p => { p with negative := negative }

/-! ### Division -/

/-- The quotient of `n / d · 10 ^ (-shift)` carried to a number of places and cut off there. -/
def quotientAt (n d : Nat) (shift places : Int) : Nat := n * powerOfTen (places - shift).toNat / d

/-- Whether the quotient comes out even at a number of places. -/
def ComesOut (n d : Nat) (shift places : Int) : Prop := n * powerOfTen (places - shift).toNat % d = 0

instance (n d : Nat) (shift places : Int) : Decidable (ComesOut n d shift places) :=
  inferInstanceAs (Decidable (_ = _))

/-- By how many places a quotient can be carried on at once: the most, up to nine and to `maxScale` in
all, that can be appended to it. -/
def stride (quotient : Nat) (places : Int) : Nat :=
  let fits (k : Nat) : Bool := decide (places + (k : Int) ≤ maxScale) && quotient * powerOfTen k < limit
  ((List.range 10).reverse.find? fits).getD 0

/-- The number of places at which a quotient ends that has been carried to `places`. It goes on stride by
stride until it comes out even, reaches `maxScale`, or fills the coefficient; the last stride is one
place shorter if its result is too long. -/
def endPlaces? (n d : Nat) (shift places : Int) : Option Nat :=
  let quotient := quotientAt n d shift places
  if ComesOut n d shift places then
    if 0 ≤ places then some places.toNat
    else if quotient * powerOfTen (-places).toNat < limit then some 0
    else none
  else
    let k := stride quotient places
    if k < 9 ∧ places + k < 0 then none
    else if k = 0 then some places.toNat
    else if quotientAt n d shift (places + k) < limit then
      if places + k ≤ maxScale then endPlaces? n d shift (places + k) else none
    else if places + k ≤ 0 then none
    else some (places + k - 1).toNat
termination_by (maxScale - places).toNat
decreasing_by grind

/-- Drops trailing zeros eight at a time, as long as the coefficient is a multiple of `2 ^ 32`. -/
def dropEights (coefficient scale : Nat) : Nat × Nat :=
  if 8 ≤ scale ∧ coefficient % wordSize = 0 ∧ coefficient % powerOfTen 8 = 0 then
    dropEights (coefficient / powerOfTen 8) (scale - 8)
  else (coefficient, scale)
termination_by scale

/-- Drops a group of trailing zeros, if there are so many. -/
def dropGroup (size : Nat) (parts : Nat × Nat) : Nat × Nat :=
  if size ≤ parts.2 ∧ parts.1 % powerOfTen size = 0 then
    (parts.1 / powerOfTen size, parts.2 - size)
  else parts

/-- Drops trailing zeros in groups: of eight while that is possible, and then one group each of four, of
two and of one. Some zeros may stay. -/
def dropGroups (coefficient scale : Nat) : Nat × Nat :=
  dropGroup 1 (dropGroup 2 (dropGroup 4 (dropEights coefficient scale)))

/-- The quotient by a divisor that is not zero, or `none` if it is too large. -/
def div? (a b : Decimal) : Option Decimal :=
  if a.isZero then some zero
  else
    let negative := a.negative != b.negative
    let shift : Int := (a.scale : Int) - b.scale
    match endPlaces? a.coefficient b.coefficient shift shift with
    | none => none
    | some places =>
      let dividend := a.coefficient * powerOfTen (places - shift).toNat
      if ComesOut a.coefficient b.coefficient shift shift then
        make? negative (dividend / b.coefficient) places
      else
        match fit? negative (roundHalfEven dividend b.coefficient) places with
        | none => none
        | some c =>
          let parts := dropGroups c.coefficient c.scale
          make? negative parts.1 parts.2

/-- Rounds to at most `places` places, a half going to the even neighbour. A zero that had a sign keeps
it, but a number that is rounded to zero loses its own. -/
def roundTo (a : Decimal) (places : Nat) (h : places ≤ maxScale) : Decimal :=
  if a.scale ≤ places then a
  else if a.isZero then { a with scale := places, scale_le := h }
  else
    let rounded := roundHalfEven a.coefficient (powerOfTen (a.scale - places))
    (make? a.negative rounded places).getD a

end Formulary.Decimal
