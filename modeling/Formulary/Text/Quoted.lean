import Formulary.Text.Taken

/-!
# Quoted text

A text between two equal quotes. A quote inside the text is written twice, so that a single one ends
it. `quote` writes such a text and `afterQuote?` reads one whose first quote has been passed.
-/

namespace Formulary.Text

/-- Writes every quote of a text twice. -/
def doubled (q : Char) : List Char → List Char
  | [] => []
  | c :: rest => if c = q then q :: q :: doubled q rest else c :: doubled q rest

/-- A text between quotes. -/
def quote (q : Char) (text : List Char) : List Char := q :: (doubled q text ++ [q])

/-- Reads a quoted text up to the quote that ends it. There is none if the input ends first. -/
def afterQuote? (q : Char) : (input : List Char) → Option (Taken (List Char) input)
  | [] => none
  | [c] => if c = q then some ⟨[], [], by simp⟩ else none
  | c :: d :: rest =>
    if c = q then
      if d = q then
        (afterQuote? q rest).map fun t => (t.map (q :: ·)).widen (by simp; omega)
      else some ⟨[], d :: rest, by simp⟩
    else (afterQuote? q (d :: rest)).map fun t => (t.map (c :: ·)).widen (by simp)

end Formulary.Text
