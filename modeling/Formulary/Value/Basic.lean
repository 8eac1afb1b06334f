import Formulary.Calendar.Pattern
import Formulary.Decimal.Printer
import Formulary.NameMap
import Formulary.Text.Blank

/-!
# Values

What a form field holds and what an expression yields. `Value.toText` is the text of a value, as it
appears where a text is wanted, and `Value.Same` is equality that looks past the scale of numbers.

`FormData` is what has been entered into a form: a value for each of the fields that have one.
-/

namespace Formulary

/-- An option of a choice: what is submitted, and what is shown for it. -/
structure OptionItem where
  /-- What is submitted. -/
  value : String
  /-- What is shown; several options may show the same. -/
  label : String
deriving DecidableEq, Repr

/-- An option that shows what it submits. -/
def OptionItem.ofText (text : String) : OptionItem := ⟨text, text⟩

/-- A value. -/
inductive Value where
  /-- A number. -/
  | number (n : Decimal)
  /-- A truth value. -/
  | boolean (b : Bool)
  /-- A text. -/
  | string (s : String)
  /-- A date with a time of day. -/
  | dateTime (d : DateTime)
  /-- The options of a choice, in order. -/
  | optionList (items : List OptionItem)
  /-- No value. -/
  | null
deriving DecidableEq, Repr, Inhabited

/-- The kinds of values. -/
inductive ValueKind where
  | number
  | boolean
  | string
  | dateTime
  | optionList
  | null
deriving DecidableEq, Repr

/-- The name of a kind in messages. -/
def ValueKind.name : ValueKind → String
  | number => "number"
  | boolean => "boolean"
  | string => "string"
  | dateTime => "datetime"
  | optionList => "option list"
  | null => "null"

/-- The kind of what may be there, in messages. -/
def ValueKind.nameOf (found : Option ValueKind) : String := found.elim "nothing" name

/-- Form data: the names of fields, each with the value entered. -/
abbrev FormData := NameMap Value

namespace Value

/-- The kind of a value. -/
def kind : Value → ValueKind
  | number _ => .number
  | boolean _ => .boolean
  | string _ => .string
  | dateTime _ => .dateTime
  | optionList _ => .optionList
  | null => .null

/-- Whether there is nothing to see in a value: no value, a blank text, no option. -/
def isEmpty : Value → Bool
  | null => true
  | string s => Text.isAllBlank s.toList
  | optionList items => items.isEmpty
  | _ => false

/-- The text of a truth value. -/
def boolText (b : Bool) : String := if b then "true" else "false"

/-- The text of a value. Options are told by what they submit; no value has no text. -/
def toText : Value → String
  | number n => n.toText
  | boolean b => boolText b
  | string s => s
  | dateTime d => d.toText
  | optionList items => ", ".intercalate (items.map OptionItem.value)
  | null => ""

/-- Two values are the same when they are equal, or are the same number. -/
def Same : Value → Value → Prop
  | number a, number b => a.Same b
  | a, b => a = b

instance instDecidableSame (a b : Value) : Decidable (a.Same b) := by
  unfold Same
  split
  · exact inferInstanceAs (Decidable (Decimal.Same _ _))
  · exact inferInstanceAs (Decidable (_ = _))

end Value

end Formulary
