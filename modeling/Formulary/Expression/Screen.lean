import Formulary.Fault
import Formulary.Text.Blank
import Formulary.Text.Case
import Formulary.Text.Letter
import Formulary.Text.Quoted

/-!
# Screening expression text

Checks that a text has to pass before it is read as an expression: it says something, it is not too
long, its parentheses pair up, and it holds no forbidden token.

The forbidden **words** count only as whole words, the forbidden **sequences** anywhere; letter case
does not matter for either. `forbiddenToken?` finds the one that starts first.
-/

namespace Formulary

/-- How large an expression may be. -/
structure Limits where
  /-- The greatest number of characters. -/
  maxLength : Nat := 8192
  /-- The greatest depth to which operands may be nested. -/
  maxDepth : Nat := 64
deriving DecidableEq, Repr

namespace Screen

/-! ### Forbidden tokens -/

/-- Words that name what lies outside a form. -/
def forbiddenWords : List (List Char) :=
  ["eval", "exec", "execute", "system", "process", "file", "files", "directory", "registry",
    "reflection", "assembly", "socket", "network", "shell", "spawn", "invoke", "import", "require",
    "environment", "thread", "unsafe", "goto"].map String.toList

/-- Sequences that open or close a text of another language. -/
def forbiddenSequences : List (List Char) :=
  ["$\x7b", "<%", "%>", "<script", "javascript:", "vbscript:", "..."].map String.toList

/-- Lower case, for comparison with an ASCII text. Outside ASCII only the long s and the Kelvin sign
have an ASCII letter as their other case. -/
def fold (c : Char) : Char :=
  if c = '\u017f' then 's' else if c = '\u212a' then 'k' else c.toLower

/-- The word that a text starts with, if it is forbidden. -/
def forbiddenWordAt? (text : List Char) : Option (List Char) :=
  let word := text.takeWhile Text.isWordChar
  if forbiddenWords.contains (word.map fold) then some word else none

/-- The forbidden sequence that a text starts with, as it is written there. -/
def forbiddenSequenceAt? (text : List Char) : Option (List Char) :=
  (forbiddenSequences.find? fun s => (text.take s.length).map fold = s).map fun s =>
    text.take s.length

/-- The first forbidden word of a text that begins at a position; `inWord` says that a word reaches up
to there. -/
def firstWord? (position : Nat) (inWord : Bool) : List Char → Option (Nat × List Char)
  | [] => none
  | c :: rest =>
    match if inWord then none else forbiddenWordAt? (c :: rest) with
    | some word => some (position, word)
    | none => firstWord? (position + 1) (Text.isWordChar c) rest

/-- The first forbidden sequence of a text that begins at a position. -/
def firstSequence? (position : Nat) : List Char → Option (Nat × List Char)
  | [] => none
  | c :: rest =>
    match forbiddenSequenceAt? (c :: rest) with
    | some s => some (position, s)
    | none => firstSequence? (position + 1) rest

/-- The one that starts first; the first one if both start together. -/
def earlier? : Option (Nat × List Char) → Option (Nat × List Char) → Option (List Char)
  | some (i, a), some (j, b) => some (if i ≤ j then a else b)
  | some (_, a), none => some a
  | none, some (_, b) => some b
  | none, none => none

/-- The first forbidden token of a text, in lower case. -/
def forbiddenToken? (text : List Char) : Option (List Char) :=
  (earlier? (firstWord? 0 false text) (firstSequence? 0 text)).map Text.lower

/-- Whether a text holds no forbidden token. -/
def isSafe (text : List Char) : Bool := (forbiddenToken? text).isNone

/-! ### Parentheses -/

/-- Checks that the parentheses outside of quotes pair up, in a text that begins at a position, behind
`depth` open parentheses of which the last was opened at `lastOpen`. -/
def checkParenthesesFrom (position depth lastOpen : Nat) : List Char → Except Fault Unit
  | [] => if depth = 0 then .ok () else .error (.unbalancedParentheses lastOpen)
  | c :: rest =>
    let next := position + c.utf8Size
    if c = '"' ∨ c = '\'' then
      match Text.afterQuote? c rest with
      | none => .error (.unterminatedString position)
      | some t => checkParenthesesFrom (next + Text.byteLength t.consumed) depth lastOpen t.rest
    else if c = '(' then checkParenthesesFrom next (depth + 1) position rest
    else if c = ')' then
      if depth = 0 then .error (.unbalancedParentheses position)
      else checkParenthesesFrom next (depth - 1) lastOpen rest
    else checkParenthesesFrom next depth lastOpen rest
termination_by text => text.length
decreasing_by
  · exact Nat.lt_succ_of_lt t.shorter
  · exact Nat.lt_succ_self _
  · exact Nat.lt_succ_self _
  · exact Nat.lt_succ_self _

/-- Checks that the parentheses of a text outside of quotes pair up. -/
def checkParentheses (text : List Char) : Except Fault Unit := checkParenthesesFrom 0 0 0 text

/-! ### All checks -/

/-- Checks a text before it is read. -/
def check (limits : Limits) (text : List Char) : Except Fault Unit := do
  if Text.isAllBlank text then throw .emptyExpression
  if limits.maxLength < text.length then
    throw (.expressionTooLong text.length limits.maxLength)
  checkParentheses text
  match forbiddenToken? text with
  | some token => throw (.unsafeExpression (String.ofList token))
  | none => return ()

end Screen

end Formulary
