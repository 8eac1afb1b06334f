import Formulary.Decimal.Arithmetic
import Formulary.Text.Blank
import Formulary.Text.Numeral

/-!
# Reading decimals

`Decimal.ofChars?` reads positional notation: an optional sign, then digits with at most one point
among them. Underscores may stand anywhere after the first digit and mean nothing. Digits that no
longer fit, past 28 places or past 96 bits of coefficient, are dropped after the point, half rounded
up; the text behind the first dropped character is not looked at. Before the point they are an error.

`Decimal.ofScientific?` reads a positional text, an `e` or `E`, and a whole exponent of magnitude at
most 28. `Decimal.ofText?` takes either form with white space around it.
-/

namespace Formulary.Decimal

/-- What has been read of a positional text. -/
structure Reading where
  /-- Whether a minus came first. -/
  negative : Bool
  /-- The digits so far. -/
  coefficient : Nat := 0
  /-- How many of them came after the point. -/
  scale : Nat := 0
  /-- Whether the point has been passed. -/
  point : Bool := false
  /-- Whether a digit has been read. -/
  started : Bool := false

namespace Reading

/-- The decimal read, if there was a digit. -/
def close (r : Reading) : Option Decimal :=
  if r.started then make? r.negative r.coefficient r.scale else none

/-- Ends the reading at the first character that no longer fits. A digit of five or more rounds up; an
underscore or a second point counts as a zero; nothing else may stand there. -/
def closeRounded (r : Reading) (next : Char) : Option Decimal :=
  let dropped : Option Nat := if next = '_' ∨ next = '.' then some 0 else Text.digit? next
  match dropped with
  | none => none
  | some d =>
    if d < 5 then r.close
    else if r.coefficient + 1 < limit then { r with coefficient := r.coefficient + 1 }.close
    else if r.scale = 0 then none
    else { r with coefficient := (r.coefficient + 5) / 10, scale := r.scale - 1 }.close

/-- Whether the places are used up. -/
def isFull (r : Reading) : Bool := r.point && decide (maxScale ≤ r.scale)

/-- Reads on from what has been read. -/
def run (r : Reading) : List Char → Option Decimal
  | [] => r.close
  | c :: rest =>
    if r.isFull then r.closeRounded c
    else if c = '.' then
      if r.point then none else run { r with point := true } rest
    else if c = '_' then
      if r.started then run r rest else none
    else
      match Text.digit? c with
      | none => none
      | some d =>
        if r.coefficient * 10 + d < limit then
          run
            { r with
              coefficient := r.coefficient * 10 + d
              scale := if r.point then r.scale + 1 else 0
              started := true } rest
        else if r.point then r.closeRounded c
        else none

end Reading

/-- Reads positional notation. -/
def ofChars? : List Char → Option Decimal
  | '-' :: rest => Reading.run { negative := true } rest
  | '+' :: rest => Reading.run { negative := false } rest
  | text => Reading.run { negative := false } text

/-- Reads a natural number of ASCII digits with an optional plus. -/
def exponent? (text : List Char) : Option Nat :=
  let digits := match text with
    | '+' :: rest => rest
    | other => other
  if digits.isEmpty || !digits.all Char.isDigit then none else some (Text.digitsValue digits)

/-- Divides by `10 ^ exponent`. Places past the 28th go first, half rounded up, and the sign stays. -/
def lower? (a : Decimal) (exponent : Nat) : Option Decimal :=
  if maxScale < exponent then none
  else if h : a.scale + exponent ≤ maxScale then
    some { a with scale := a.scale + exponent, scale_le := h }
  else
    let rounded := roundHalfUp a.coefficient (powerOfTen (a.scale + exponent - maxScale))
    (make? false rounded maxScale).map fun b => { b with negative := a.negative }

/-- Multiplies by `10 ^ exponent`: lowers the scale if that is enough, else multiplies and drops
trailing zeros. -/
def raise? (a : Decimal) (exponent : Nat) : Option Decimal :=
  if exponent ≤ a.scale then
    some { a with scale := a.scale - exponent, scale_le := Nat.le_trans (Nat.sub_le _ _) a.scale_le }
  else if maxScale < exponent then none
  else (fit? a.negative (a.coefficient * powerOfTen exponent) a.scale).map normalize

/-- Reads a positional text with an exponent. -/
def ofScientific? (text : List Char) : Option Decimal :=
  let base := text.takeWhile fun c => c ≠ 'e' ∧ c ≠ 'E'
  match text.dropWhile fun c => c ≠ 'e' ∧ c ≠ 'E' with
  | [] => none
  | _ :: '-' :: exponent => do
    let a ← ofChars? base
    let e ← exponent? exponent
    lower? a e
  | _ :: exponent => do
    let a ← ofChars? base
    let e ← exponent? exponent
    raise? a e

/-- Reads a number in either notation. -/
def ofNumeral? (text : List Char) : Option Decimal :=
  (ofChars? text).or (ofScientific? text)

/-- Reads a number in either notation, white space around it aside. -/
def ofText? (text : String) : Option Decimal :=
  ofNumeral? (Text.trim text.toList)

end Formulary.Decimal
