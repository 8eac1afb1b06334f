import Formulary.Decimal.Basic
import Formulary.Text.Numeral

/-!
# The text of a decimal

All places are written, trailing zeros too, with at least one digit before the point; a minus stands
before every negative decimal, a negative zero included.
-/

namespace Formulary.Decimal

/-- The text of a decimal as characters. -/
def toChars (a : Decimal) : List Char :=
  let digits := Text.padded '0' (a.scale + 1) a.coefficient
  let whole := digits.take (digits.length - a.scale)
  let places := digits.drop (digits.length - a.scale)
  (if a.negative then ['-'] else []) ++ whole ++ (if a.scale = 0 then [] else '.' :: places)

/-- The text of a decimal. -/
def toText (a : Decimal) : String := String.ofList a.toChars

instance : ToString Decimal := ⟨toText⟩

end Formulary.Decimal
