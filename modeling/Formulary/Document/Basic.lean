import Formulary.NameMap
import Formulary.Text.Numeral

/-!
# Documents

A `Document` is a JSON value. Two of its choices show in what is written back: a number is its text,
so no digit is lost, and the members of an object are in ascending order of their names, each name
once.
-/

namespace Formulary

/-- A JSON value. -/
inductive Document where
  /-- The null value. -/
  | null
  /-- A truth value. -/
  | bool (b : Bool)
  /-- A number, as its text. -/
  | number (text : String)
  /-- A string. -/
  | string (s : String)
  /-- An array. -/
  | array (items : List Document)
  /-- An object, its members in ascending order of their names. -/
  | object (members : List (String × Document))
deriving Repr, Inhabited

namespace Document

/-- The object with these members; of several with one name the last counts. -/
def ofMembers (members : List (String × Document)) : Document :=
  object (members.foldl (fun sorted member => insertEntry member.1 member.2 sorted) [])

/-- The member of that name, if the document is an object that has one. -/
def get? (name : String) : Document → Option Document
  | object members => members.lookup name
  | _ => none

/-- The text of a string document. -/
def asString? : Document → Option String
  | string s => some s
  | _ => none

/-- The items of an array document. -/
def asArray? : Document → Option (List Document)
  | array items => some items
  | _ => none

/-- The members of an object document. -/
def asObject? : Document → Option (List (String × Document))
  | object members => some members
  | _ => none

/-- The natural number that a number document is written as. -/
def asNat? : Document → Option Nat
  | number text =>
    let digits := text.toList
    if digits.isEmpty || !digits.all Char.isDigit then none
    else some (Text.digitsValue digits)
  | _ => none

/-- A natural number as a document. -/
def ofNat (n : Nat) : Document := number (toString n)

/-- A list of strings as a document. -/
def ofStrings (texts : List String) : Document := array (texts.map string)

/-- An optional document, null if absent. -/
def ofOption {α : Type} (f : α → Document) : Option α → Document
  | none => null
  | some a => f a

end Document

end Formulary
