import Formulary.Function.Argument
import Formulary.Text.Case

/-!
# Text functions

Functions on texts. Characters are code points, counted from zero.
-/

namespace Formulary.Texts

/-- Whether a text stands somewhere in another. -/
def occursIn (search : List Char) : List Char → Bool
  | [] => search.isEmpty
  | c :: rest => search.isPrefixOf (c :: rest) || occursIn search rest

/-- All arguments as texts, in order. -/
def texts (function : String) (arguments : List Value) : Except Fault (List String) :=
  (List.range arguments.length).mapM fun i => Argument.string function arguments i

/-- The arguments one behind the other. -/
def concat (arguments : List Value) : Except Fault Value := do
  return .string (String.join (← texts "CONCAT" arguments))

/-- The text in upper case. -/
def upper (arguments : List Value) : Except Fault Value := do
  return .string (Text.upperString (← Argument.string "UPPER" arguments 0))

/-- The text in lower case. -/
def lower (arguments : List Value) : Except Fault Value := do
  return .string (Text.lowerString (← Argument.string "LOWER" arguments 0))

/-- The text without white space at its ends. -/
def trim (arguments : List Value) : Except Fault Value := do
  return .string (String.ofList (Text.trim (← Argument.string "TRIM" arguments 0).toList))

/-- Whether the second text stands somewhere in the first. -/
def contains (arguments : List Value) : Except Fault Value := do
  let text ← Argument.string "CONTAINS" arguments 0
  let search ← Argument.string "CONTAINS" arguments 1
  return .boolean (occursIn search.toList text.toList)

/-- The number of characters. -/
def length (arguments : List Value) : Except Fault Value := do
  let text ← Argument.string "LENGTH" arguments 0
  match Decimal.ofNat? text.length with
  | some n => return .number n
  | none => throw (.numericOverflow "LENGTH")

/-- The characters from a start on, up to a number of them if one is given. -/
def substring (arguments : List Value) : Except Fault Value := do
  let text ← Argument.string "SUBSTRING" arguments 0
  let start ← Argument.integer "SUBSTRING" arguments 1
  if start < 0 then throw (.invalidArgument "SUBSTRING" .negativeStart)
  let rest := text.toList.drop start.toNat
  if 2 < arguments.length then
    let length ← Argument.integer "SUBSTRING" arguments 2
    if length < 0 then throw (.invalidArgument "SUBSTRING" .negativeLength)
    return .string (String.ofList (rest.take length.toNat))
  else return .string (String.ofList rest)

end Formulary.Texts
