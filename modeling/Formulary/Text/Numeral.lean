/-!
# Digits in a text

The value of ASCII digits, and numbers of a bounded length at the front of a text.
-/

namespace Formulary.Text

/-- The value of an ASCII digit. -/
def digit? (c : Char) : Option Nat :=
  if c.isDigit then some (c.toNat - '0'.toNat) else none

/-- The number that a run of ASCII digits denotes. -/
def digitsValue (digits : List Char) : Nat :=
  digits.foldl (fun n c => n * 10 + (c.toNat - '0'.toNat)) 0

/-- Splits a number of at least `least` and at most `most` digits off the front of a text. -/
def number? (least most : Nat) (text : List Char) : Option (Nat × List Char) :=
  let taken := (text.take most).takeWhile Char.isDigit
  if taken.length < least then none else some (digitsValue taken, text.drop taken.length)

/-- The text behind `c`, if it starts with that. -/
def afterChar? (c : Char) : List Char → Option (List Char)
  | d :: rest => if c = d then some rest else none
  | [] => none

/-- The decimal digits of a natural number, at least `width` of them, with `fill` in front. -/
def padded (fill : Char) (width n : Nat) : List Char :=
  let digits := Nat.toDigits 10 n
  List.replicate (width - digits.length) fill ++ digits

end Formulary.Text
