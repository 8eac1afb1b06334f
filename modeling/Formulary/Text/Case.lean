import Formulary.Text.Blank
import Formulary.Text.CaseTable

/-!
# Upper and lower case

Full case conversion of texts. One character may become several (`ß` becomes `SS`), and a capital
sigma at the end of a word becomes the final sigma. ASCII-only conversion, which leaves every other
character alone, stands beside it.
-/

namespace Formulary.Text

/-- The code point that a table of runs gives for `n`, if it has one. -/
def shift? (runs : List (Nat × Nat × Nat × Int)) (n : Nat) : Option Nat :=
  match runs.find? fun (first, last, step, _) => first ≤ n && n ≤ last && (n - first) % step == 0 with
  | some (_, _, _, shift) => some (n + shift).toNat
  | none => none

/-- The upper case of a character. -/
def upperChar (c : Char) : List Char :=
  if c.toNat < 128 then [c.toUpper]
  else
    match upperExpansions.lookup c.toNat with
    | some codes => codes.map Char.ofNat
    | none => [(shift? upperRuns c.toNat).elim c Char.ofNat]

/-- The lower case of a character, wherever it stands. -/
def lowerChar (c : Char) : List Char :=
  if c.toNat < 128 then [c.toLower]
  else if c = 'İ' then ['i', '\u0307']
  else [(shift? lowerRuns c.toNat).elim c Char.ofNat]

/-- The upper case of a text. -/
def upper (text : List Char) : List Char := text.flatMap upperChar

/-- Whether the first character that case rules do not look through is a cased one. -/
def startsCased (text : List Char) : Bool :=
  match text.dropWhile fun c => inRanges caseIgnorableRanges c.toNat with
  | [] => false
  | c :: _ => inRanges casedRanges c.toNat

/-- The lower case of `text`, which stands behind the reverse of `before`. -/
def lowerAfter (before : List Char) : List Char → List Char
  | [] => []
  | c :: rest =>
    let here :=
      if c = 'Σ' then
        if startsCased before && !startsCased rest then ['ς'] else ['σ']
      else lowerChar c
    here ++ lowerAfter (c :: before) rest

/-- The lower case of a text. -/
def lower (text : List Char) : List Char := lowerAfter [] text

/-- The upper case of a string. -/
def upperString (s : String) : String := String.ofList (upper s.toList)

/-- The lower case of a string. -/
def lowerString (s : String) : String := String.ofList (lower s.toList)

/-- The text with ASCII letters in lower case and all else as it is. -/
def lowerAscii (text : List Char) : List Char := text.map Char.toLower

end Formulary.Text
