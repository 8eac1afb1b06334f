import Formulary.Decimal.Reader
import Formulary.Document.Printer
import Formulary.Document.Reader
import Formulary.Value.Basic

/-!
# Values as documents

`Value.toDocument` writes a value and `Value.ofDocument?` reads one. A number is written as its
shortest decimal and keeps all its digits; a text that is no JSON number would be written as a string
instead. A date-time is written as its text and an option as an object with a `label` and a `value`. A
date-time is read back as a text, every other value as the same.
-/

namespace Formulary

/-- Why a document is not a value. -/
inductive DecodeFault where
  /-- The number has no decimal. -/
  | invalidNumber (text : String)
  /-- An object stands where a value is wanted. -/
  | objectAsValue
  /-- An option is an object without a member `value`. -/
  | optionWithoutValue
  /-- An option is an array. -/
  | nestedArray
deriving DecidableEq, Repr

/-- What is said about a document that is not a value. -/
def DecodeFault.message : DecodeFault → String
  | invalidNumber text => s!"Invalid number: {text}"
  | objectAsValue => "Unsupported JSON value: objects are only valid as option items"
  | optionWithoutValue => "Unsupported JSON value: option without 'value'"
  | nestedArray => "Unsupported JSON value: nested array in option list"

namespace OptionItem

/-- The text that a part of an option stands for: a string is its own text, null has none, and any
other document is written out. -/
def partText : Document → String
  | .string s => s
  | .null => ""
  | document => document.render

/-- The option of a document: an object with a `value` and perhaps a `label`, or a text for both. -/
def ofDocument? : Document → Except DecodeFault OptionItem
  | .object members =>
    match members.lookup "value" with
    | some value =>
      .ok ⟨partText value, partText ((members.lookup "label").getD (.string (partText value)))⟩
    | none => .error .optionWithoutValue
  | .array _ => .error .nestedArray
  | scalar => .ok (ofText (partText scalar))

/-- An option as a document. -/
def toDocument (item : OptionItem) : Document :=
  .object [("label", .string item.label), ("value", .string item.value)]

end OptionItem

namespace Value

/-- The value of a document. -/
def ofDocument? : Document → Except DecodeFault Value
  | .null => .ok .null
  | .bool b => .ok (.boolean b)
  | .number text =>
    match Decimal.ofNumeral? text.toList with
    | some n => .ok (.number n)
    | none => .error (.invalidNumber text)
  | .string s => .ok (.string s)
  | .array items => (items.mapM OptionItem.ofDocument?).map .optionList
  | .object _ => .error .objectAsValue

/-- A value as a document. -/
def toDocument : Value → Document
  | .number n => (Document.ofNumber? n.normalize.toText).getD (.string n.toText)
  | .boolean b => .bool b
  | .string s => .string s
  | .dateTime d => .string d.toText
  | .optionList items => .array (items.map OptionItem.toDocument)
  | .null => .null

end Value

end Formulary
