import Formulary.Document.Basic

/-!
# Writing documents

`Document.render` writes a document without any white space; `Document.renderPretty` puts every item
and member on a line of its own, two spaces deeper than what holds it, and keeps empty arrays and
objects together.

In strings only the quote, the backslash and the control characters below U+0020 are escaped; the
latter by their letter where they have one, else as `\u` with four lower-case digits.
-/

namespace Formulary.Document

/-- The letter that stands for a character behind a backslash. -/
def escapeLetter? : Char → Option Char
  | '"' => some '"'
  | '\\' => some '\\'
  | '\x08' => some 'b'
  | '\x0c' => some 'f'
  | '\n' => some 'n'
  | '\r' => some 'r'
  | '\t' => some 't'
  | _ => none

/-- A character as it stands between quotes. -/
def escapeChar (c : Char) : List Char :=
  match escapeLetter? c with
  | some letter => ['\\', letter]
  | none =>
    if c.toNat < 0x20 then
      ['\\', 'u', '0', '0', Nat.digitChar (c.toNat / 16), Nat.digitChar (c.toNat % 16)]
    else [c]

/-- A text in quotes. -/
def quote (s : String) : List Char := '"' :: (s.toList.flatMap escapeChar ++ ['"'])

mutual

/-- The document without white space, as characters. -/
def renderChars : Document → List Char
  | null => "null".toList
  | bool b => (if b then "true" else "false").toList
  | number text => text.toList
  | string s => quote s
  | array items => '[' :: (renderItems items ++ [']'])
  | object members => '\x7b' :: (renderMembers members ++ ['\x7d'])

/-- Items with commas between them. -/
def renderItems : List Document → List Char
  | [] => []
  | [item] => renderChars item
  | item :: rest => renderChars item ++ ',' :: renderItems rest

/-- Members with commas between them. -/
def renderMembers : List (String × Document) → List Char
  | [] => []
  | [(name, value)] => quote name ++ ':' :: renderChars value
  | (name, value) :: rest => quote name ++ ':' :: renderChars value ++ ',' :: renderMembers rest

end

/-- The document without white space. -/
def render (d : Document) : String := String.ofList d.renderChars

/-- A line break and the indentation of a nesting depth. -/
def newline (depth : Nat) : List Char := '\n' :: List.replicate (2 * depth) ' '

mutual

/-- The document over several lines, inside `depth` others. -/
def prettyChars (depth : Nat) : Document → List Char
  | array [] => "[]".toList
  | array (item :: rest) => '[' :: (prettyItems (depth + 1) (item :: rest) ++ newline depth ++ [']'])
  | object [] => ['\x7b', '\x7d']
  | object (member :: rest) =>
    '\x7b' :: (prettyMembers (depth + 1) (member :: rest) ++ newline depth ++ ['\x7d'])
  | null => "null".toList
  | bool b => (if b then "true" else "false").toList
  | number text => text.toList
  | string s => quote s

/-- Items, each on its own line. -/
def prettyItems (depth : Nat) : List Document → List Char
  | [] => []
  | [item] => newline depth ++ prettyChars depth item
  | item :: rest => newline depth ++ prettyChars depth item ++ ',' :: prettyItems depth rest

/-- Members, each on its own line. -/
def prettyMembers (depth : Nat) : List (String × Document) → List Char
  | [] => []
  | [(name, value)] => newline depth ++ quote name ++ ':' :: ' ' :: prettyChars depth value
  | (name, value) :: rest =>
    newline depth ++ quote name ++ ':' :: ' ' :: prettyChars depth value ++
      ',' :: prettyMembers depth rest

end

/-- The document over several lines. -/
def renderPretty (d : Document) : String := String.ofList (d.prettyChars 0)

end Formulary.Document
