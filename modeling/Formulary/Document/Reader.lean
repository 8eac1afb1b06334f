import Formulary.Document.Basic
import Formulary.Text.Taken

/-!
# Reading documents

`Document.ofText?` reads a whole text as one JSON value. White space is space, tab, line feed and
carriage return. Objects sort their members, and the last of several members with one name counts.
A number keeps its text, but its exponent is written with a small `e` and a sign. Arrays and objects
may be nested 127 deep.

Excluded are objects with a member named `$serde_json::private::Number`. The name is reserved for the inner
use of readers that keep numbers as they are written, and such an object may be read as a number. Here it is a
name like any other, so for texts in which it occurs nothing is claimed.

## Implementation notes

The depth that is left is what `value?` recurses on; the loop over the items of an array or object
ends because each item takes something off the text.
-/

namespace Formulary.Document

/-- Whether a character may stand between the parts of a document. -/
def isSpace (c : Char) : Bool := c == ' ' || c == '\n' || c == '\t' || c == '\r'

/-- The text from its first character that is not space. -/
def skipSpace (text : List Char) : List Char := text.dropWhile isSpace

theorem length_skipSpace_le (text : List Char) : (skipSpace text).length ≤ text.length :=
  length_dropWhile_le isSpace text

/-- The text without the given characters at its front. -/
def after? : List Char → List Char → Option (List Char)
  | [], text => some text
  | c :: word, d :: text => if c = d then after? word text else none
  | _ :: _, [] => none

/-! ### Numbers -/

/-- Splits the exponent off the front of a text, if there is one: what is written for it, and the rest.
There is none behind an `e` without digits. -/
def exponent? (text : List Char) : Option (List Char × List Char) :=
  match text with
  | c :: rest =>
    if c = 'e' ∨ c = 'E' then
      let (sign, digits) := match rest with
        | '+' :: digits => ('+', digits)
        | '-' :: digits => ('-', digits)
        | digits => ('+', digits)
      let taken := digits.takeWhile Char.isDigit
      if taken.isEmpty then none
      else some ('e' :: sign :: taken, digits.dropWhile Char.isDigit)
    else some ([], text)
  | [] => some ([], [])

/-- Splits the places after the point off the front of a text, if there are any. -/
def fraction? (text : List Char) : Option (List Char × List Char) :=
  match text with
  | '.' :: rest =>
    let taken := rest.takeWhile Char.isDigit
    if taken.isEmpty then none else some ('.' :: taken, rest.dropWhile Char.isDigit)
  | other => some ([], other)

/-- Splits the digits before the point off the front of a text: a zero alone, or digits that do not
start with a zero. -/
def whole? (text : List Char) : Option (List Char × List Char) :=
  match text with
  | '0' :: rest =>
    match rest with
    | c :: _ => if c.isDigit then none else some (['0'], rest)
    | [] => some (['0'], rest)
  | other =>
    let taken := other.takeWhile Char.isDigit
    if taken.isEmpty then none else some (taken, other.dropWhile Char.isDigit)

/-- Splits a number off the front of a text: what is kept of it, and the rest. -/
def number? (text : List Char) : Option (List Char × List Char) :=
  let (sign, unsigned) := match text with
    | '-' :: rest => (['-'], rest)
    | other => ([], other)
  do
    let (whole, rest) ← whole? unsigned
    let (places, rest) ← fraction? rest
    let (exponent, rest) ← exponent? rest
    return (sign ++ whole ++ places ++ exponent, rest)

/-- The number that a whole text is. -/
def ofNumber? (text : String) : Option Document :=
  match number? text.toList with
  | some (kept, []) => some (number (String.ofList kept))
  | _ => none

/-! ### Strings -/

/-- The value of a hexadecimal digit. -/
def hexDigit? (c : Char) : Option Nat :=
  if c.isDigit then some (c.toNat - '0'.toNat)
  else if 'a' ≤ c ∧ c ≤ 'f' then some (c.toNat - 'a'.toNat + 10)
  else if 'A' ≤ c ∧ c ≤ 'F' then some (c.toNat - 'A'.toNat + 10)
  else none

/-- The value of four hexadecimal digits. -/
def hexQuad? (a b c d : Char) : Option Nat := do
  return (← hexDigit? a) * 4096 + (← hexDigit? b) * 256 + (← hexDigit? c) * 16 + (← hexDigit? d)

/-- The character that a letter behind a backslash stands for. -/
def unescapeLetter? : Char → Option Char
  | '"' => some '"'
  | '\\' => some '\\'
  | '/' => some '/'
  | 'b' => some '\x08'
  | 'f' => some '\x0c'
  | 'n' => some '\n'
  | 'r' => some '\r'
  | 't' => some '\t'
  | _ => none

/-- Reads the inside of a string up to its closing quote: the text, and what follows the quote. A high
surrogate escape has to be followed by that of a low one, which may not stand alone. -/
def stringBody? : List Char → Option (List Char × List Char)
  | '"' :: rest => some ([], rest)
  | '\\' :: 'u' :: a :: b :: c :: d :: rest =>
    match hexQuad? a b c d with
    | none => none
    | some unit =>
      if 0xDC00 ≤ unit ∧ unit ≤ 0xDFFF then none
      else if 0xD800 ≤ unit ∧ unit ≤ 0xDBFF then
        match rest with
        | '\\' :: 'u' :: e :: f :: g :: h :: rest =>
          match hexQuad? e f g h with
          | none => none
          | some low =>
            if 0xDC00 ≤ low ∧ low ≤ 0xDFFF then
              (stringBody? rest).map fun (text, after) =>
                (Char.ofNat (0x10000 + (unit - 0xD800) * 0x400 + (low - 0xDC00)) :: text, after)
            else none
        | _ => none
      else (stringBody? rest).map fun (text, after) => (Char.ofNat unit :: text, after)
  | '\\' :: letter :: rest =>
    match unescapeLetter? letter with
    | none => none
    | some c => (stringBody? rest).map fun (text, after) => (c :: text, after)
  | c :: rest =>
    if c = '\\' ∨ c.toNat < 0x20 then none
    else (stringBody? rest).map fun (text, after) => (c :: text, after)
  | [] => none

/-! ### Values -/

/-- Reads a value that is neither array nor object. -/
def scalar? (text : List Char) : Option (Taken Document text) :=
  match text with
  | '"' :: rest =>
    (stringBody? rest).bind fun (s, after) => Taken.of? _ (string (String.ofList s)) after
  | 'n' :: rest => (after? "ull".toList rest).bind (Taken.of? _ null)
  | 't' :: rest => (after? "rue".toList rest).bind (Taken.of? _ (bool true))
  | 'f' :: rest => (after? "alse".toList rest).bind (Taken.of? _ (bool false))
  | other => (number? other).bind fun (kept, after) => Taken.of? _ (number (String.ofList kept)) after

/-- Reads one or more items with commas between them, up to the closing bracket. -/
def items? {α : Type} (close : Char) (item? : (text : List Char) → Option (Taken α text))
    (text : List Char) : Option (Taken (List α) text) :=
  match item? text with
  | none => none
  | some item =>
    match h : skipSpace item.rest with
    | ',' :: rest =>
      have shorter : (skipSpace rest).length < text.length := by
        have h₁ := length_skipSpace_le item.rest
        have h₂ := length_skipSpace_le rest
        have h₃ := item.shorter
        rw [h, List.length_cons] at h₁
        omega
      match items? close item? (skipSpace rest) with
      | none => none
      | some more => some ⟨item.value :: more.value, more.rest, Nat.lt_trans more.shorter shorter⟩
    | c :: rest =>
      if c = close then
        some ⟨[item.value], rest, by
          have h₁ := length_skipSpace_le item.rest
          have h₃ := item.shorter
          rw [h, List.length_cons] at h₁
          omega⟩
      else none
    | [] => none
termination_by text.length

/-- Reads what follows an opening bracket. -/
def bracketed? {α : Type} (close : Char) (item? : (text : List Char) → Option (Taken α text))
    (text : List Char) : Option (Taken (List α) text) :=
  match h : skipSpace text with
  | c :: rest =>
    if c = close then
      some ⟨[], rest, by
        have h₁ := length_skipSpace_le text
        rw [h, List.length_cons] at h₁
        omega⟩
    else (items? close item? (skipSpace text)).map fun t => t.widen (length_skipSpace_le text)
  | [] => none

/-- Reads a member of an object: its name, a colon and its value. -/
def member? (value? : (text : List Char) → Option (Taken Document text)) (text : List Char) :
    Option (Taken (String × Document) text) :=
  match text with
  | '"' :: rest => do
    let (name, rest) ← stringBody? rest
    let rest ← after? [':'] (skipSpace rest)
    let value ← value? (skipSpace rest)
    Taken.of? _ (String.ofList name, value.value) value.rest
  | _ => none

/-- Reads a value with at most `depth` arrays and objects inside each other. -/
def value? : Nat → (text : List Char) → Option (Taken Document text)
  | 0, text => scalar? text
  | depth + 1, text =>
    match text with
    | '[' :: rest =>
      (bracketed? ']' (value? depth) rest).map fun t =>
        (t.map array).widen (Nat.le_succ rest.length)
    | '\x7b' :: rest =>
      (bracketed? '\x7d' (member? (value? depth)) rest).map fun t =>
        (t.map ofMembers).widen (Nat.le_succ rest.length)
    | other => scalar? other

/-- How deep arrays and objects may be nested. -/
def maxDepth : Nat := 127

/-- Reads a whole text as one document, from characters. -/
def ofChars? (text : List Char) : Option Document :=
  match value? maxDepth (skipSpace text) with
  | none => none
  | some t => if (skipSpace t.rest).isEmpty then some t.value else none

/-- Reads a whole text as one document. -/
def ofText? (text : String) : Option Document := ofChars? text.toList

/-- What is said about a text that is no document. Why it is none is a matter of the words of the reader,
which are left out: `<json>` stands for them, whatever the text is. -/
def complaint (_text : String) : String := "<json>"

end Formulary.Document
