import Formulary.Document.Reader
import Formulary.Fault
import Formulary.Text.Case
import Formulary.Text.Letter
import Formulary.Text.Quoted

/-!
# Reading lexemes

`Lexemes.ofChars` splits a text into lexemes, each with the position of its first byte. White space
separates lexemes and is passed over. Where the text goes on with something that is no lexeme, the
`Lexemes` end in a fault, so that a reader of lexemes comes upon the fault when it comes to that place
and not before.

A bracketed option list is one lexeme: `brackets?` finds where it ends.
-/

namespace Formulary

namespace Lexeme

/-! ### Symbols -/

/-- The symbol that a text starts with, the longest one if there are several. -/
def symbol? : (text : List Char) → Option (Taken Symbol text)
  | '+' :: rest => some ⟨.plus, rest, Nat.lt_succ_self _⟩
  | '-' :: rest => some ⟨.minus, rest, Nat.lt_succ_self _⟩
  | '*' :: rest => some ⟨.star, rest, Nat.lt_succ_self _⟩
  | '/' :: rest => some ⟨.slash, rest, Nat.lt_succ_self _⟩
  | ',' :: rest => some ⟨.comma, rest, Nat.lt_succ_self _⟩
  | '(' :: rest => some ⟨.leftParen, rest, Nat.lt_succ_self _⟩
  | ')' :: rest => some ⟨.rightParen, rest, Nat.lt_succ_self _⟩
  | '<' :: '=' :: rest => some ⟨.lessEqual, rest, Nat.lt_succ_of_lt (Nat.lt_succ_self _)⟩
  | '<' :: '>' :: rest => some ⟨.notEqual, rest, Nat.lt_succ_of_lt (Nat.lt_succ_self _)⟩
  | '<' :: rest => some ⟨.lessThan, rest, Nat.lt_succ_self _⟩
  | '>' :: '=' :: rest => some ⟨.greaterEqual, rest, Nat.lt_succ_of_lt (Nat.lt_succ_self _)⟩
  | '>' :: rest => some ⟨.greaterThan, rest, Nat.lt_succ_self _⟩
  | '=' :: '=' :: rest => some ⟨.equal, rest, Nat.lt_succ_of_lt (Nat.lt_succ_self _)⟩
  | '=' :: rest => some ⟨.equal, rest, Nat.lt_succ_self _⟩
  | '!' :: '=' :: rest => some ⟨.notEqual, rest, Nat.lt_succ_of_lt (Nat.lt_succ_self _)⟩
  | '!' :: rest => some ⟨.bang, rest, Nat.lt_succ_self _⟩
  | '&' :: '&' :: rest => some ⟨.and, rest, Nat.lt_succ_of_lt (Nat.lt_succ_self _)⟩
  | '|' :: '|' :: rest => some ⟨.or, rest, Nat.lt_succ_of_lt (Nat.lt_succ_self _)⟩
  | _ => none

/-! ### Numbers -/

/-- The exponent that a text starts with: its letter counts only before a digit or a sign, but digits
may be missing behind the sign. -/
def exponentLength : List Char → Nat
  | e :: rest =>
    if e = 'e' ∨ e = 'E' then
      match rest with
      | c :: more =>
        if c = '+' ∨ c = '-' then 2 + (more.takeWhile Char.isDigit).length
        else if c.isDigit then 1 + (rest.takeWhile Char.isDigit).length
        else 0
      | [] => 0
    else 0
  | [] => 0

/-- The length of a point with the digits behind it, if a text starts so. -/
def fractionLength : List Char → Nat
  | '.' :: rest => 1 + (rest.takeWhile Char.isDigit).length
  | _ => 0

/-- Whether a text starts with a digit, or a point with a digit behind it. -/
def startsNumber : List Char → Bool
  | '.' :: c :: _ => c.isDigit
  | c :: _ => c.isDigit
  | [] => false

/-- Reads a number. -/
def number? (position : Nat) (text : List Char) : Except Fault (Option (Taken Lexeme text)) :=
  let whole := (text.takeWhile Char.isDigit).length
  let mantissa := whole + fractionLength (text.drop whole)
  let exponent := exponentLength (text.drop mantissa)
  let numeral := text.take (mantissa + exponent)
  let read := if exponent = 0 then Decimal.ofChars? numeral else Decimal.ofScientific? numeral
  match read with
  | none => .error (.malformed (.invalidNumber (String.ofList numeral) position))
  | some n => .ok (Taken.of? text (.literal (.number n)) (text.drop (mantissa + exponent)))

/-! ### Names -/

/-- Whether a character starts a bare name. -/
def startsName (c : Char) : Bool := Text.isAlphabetic c || c == '_'

/-- Whether a character goes on with a name. -/
def isNameChar (c : Char) : Bool := Text.isAlphanumeric c || c == '_' || c == '.'

/-- The value that a name is a keyword for, in any case of its letters. -/
def keyword? (name : List Char) : Option Value :=
  if Text.lowerAscii name = "true".toList then some (.boolean true)
  else if Text.lowerAscii name = "false".toList then some (.boolean false)
  else if Text.lowerAscii name = "null".toList then some .null
  else none

/-- The lexeme of a bare name that `rest` follows. Before a parenthesis a keyword is a name. -/
def ofName (name rest : List Char) : Lexeme :=
  if rest.head? = some '(' then .name (String.ofList name)
  else (keyword? name).elim (.name (String.ofList name)) .literal

/-- Reads a bare name. -/
def name? (text : List Char) : Option (Taken Lexeme text) :=
  let rest := text.dropWhile isNameChar
  Taken.of? text (ofName (text.takeWhile isNameChar) rest) rest

/-- Reads a name behind the mark of a variable. -/
def marked (position : Nat) (rest : List Char) : Except Fault (Taken Lexeme ('$' :: rest)) :=
  let name := rest.takeWhile isNameChar
  if name.isEmpty then .error (.malformed (.missingVariableName position))
  else
    .ok ⟨.var (String.ofList name), rest.dropWhile isNameChar,
      Nat.lt_succ_of_le (length_dropWhile_le _ _)⟩

/-! ### Bracketed option lists -/

/-- Where the search for a closing bracket stands. -/
inductive BracketState where
  /-- Outside of strings. -/
  | plain
  /-- In a string. -/
  | inString
  /-- Behind a backslash in a string. -/
  | escaped
deriving DecidableEq, Repr

/-- Reads up to the bracket that closes the outermost of `nesting` open ones, brackets and braces alike
and those in strings left out. There is none if the text ends first. -/
def brackets? : BracketState → Nat → (text : List Char) → Option (Taken Unit text)
  | _, _, [] => none
  | .escaped, nesting, _ :: rest => (brackets? .inString nesting rest).map (·.widen (by simp))
  | .inString, nesting, c :: rest =>
    let state := if c = '\\' then .escaped else if c = '"' then .plain else .inString
    (brackets? state nesting rest).map (·.widen (by simp))
  | .plain, nesting, c :: rest =>
    if c = '"' then (brackets? .inString nesting rest).map (·.widen (by simp))
    else if c = '[' ∨ c = '\x7b' then
      (brackets? .plain (nesting + 1) rest).map (·.widen (by simp))
    else if c = ']' ∨ c = '\x7d' then
      if nesting ≤ 1 then some ⟨(), rest, by simp⟩
      else (brackets? .plain (nesting - 1) rest).map (·.widen (by simp))
    else (brackets? .plain nesting rest).map (·.widen (by simp))

/-- The option list of a bracketed text. -/
def optionList (position : Nat) (text : List Char) : Except Fault Value :=
  match Document.ofChars? text with
  | none => .error (.malformed (.unreadableList (String.ofList text) position))
  | some document =>
    match Value.ofDocument? document with
    | .ok v => .ok v
    | .error cause => .error (.malformed (.invalidList position cause))

/-- Reads a bracketed option list. -/
def bracketed (position : Nat) (text : List Char) : Except Fault (Taken Lexeme text) :=
  match brackets? .plain 0 text with
  | none => .error (.malformed (.unterminatedList position))
  | some t => (optionList position t.consumed).map fun v => t.map fun _ => .literal v

/-! ### Any lexeme -/

/-- Reads the lexeme that a text starts with. -/
def read (position : Nat) : (text : List Char) → Except Fault (Option (Taken Lexeme text))
  | [] => .ok none
  | '$' :: rest => (marked position rest).map some
  | c :: rest =>
    match symbol? (c :: rest) with
    | some t => .ok (some (t.map .symbol))
    | none =>
      if c = '&' ∨ c = '|' then
        .error (.malformed (.unsupportedOperator c (position + c.utf8Size)))
      else if c = '"' ∨ c = '\'' then
        match Text.afterQuote? c rest with
        | none => .error (.unterminatedString position)
        | some t =>
          .ok (some ((t.map fun s => .literal (.string (String.ofList s))).widen (by simp)))
      else if c = '[' then (bracketed position (c :: rest)).map some
      else if startsNumber (c :: rest) then number? position (c :: rest)
      else if startsName c then .ok (name? (c :: rest))
      else .ok none

end Lexeme

/-- A lexeme in its place. -/
structure Located where
  /-- The lexeme. -/
  lexeme : Lexeme
  /-- The number of bytes before it. -/
  position : Nat
deriving DecidableEq, Repr

/-- What follows the last lexeme of a text. -/
inductive Ending where
  /-- The end of the text, at that position. -/
  | finished (position : Nat)
  /-- Something that is no lexeme. -/
  | faulty (fault : Fault)
deriving DecidableEq, Repr

/-- A text split into lexemes. -/
structure Lexemes where
  /-- The lexemes, each in its place. -/
  items : List Located
  /-- What follows them. -/
  ending : Ending
deriving DecidableEq, Repr

namespace Lexemes

/-- The lexemes of a text that begins at a position. -/
def ofCharsFrom (position : Nat) (text : List Char) : Lexemes :=
  let start := position + Text.byteLength (text.takeWhile Text.isBlank)
  match _h : text.dropWhile Text.isBlank with
  | [] => ⟨[], .finished start⟩
  | c :: rest =>
    match Lexeme.read start (c :: rest) with
    | .error fault => ⟨[], .faulty fault⟩
    | .ok none => ⟨[], .faulty (.malformed (.unexpectedChar c start))⟩
    | .ok (some t) =>
      let others := ofCharsFrom (start + Text.byteLength t.consumed) t.rest
      ⟨⟨t.value, start⟩ :: others.items, others.ending⟩
termination_by text.length
decreasing_by
  have kept := length_dropWhile_le Text.isBlank text
  rw [_h] at kept
  exact Nat.lt_of_lt_of_le t.shorter kept

/-- The lexemes of a text. -/
def ofChars (text : List Char) : Lexemes := ofCharsFrom 0 text

end Lexemes

end Formulary
