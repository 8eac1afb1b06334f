import Formulary.Expression.Operator
import Formulary.Expression.Screen
import Formulary.Lexeme.Reader

/-!
# Reading expressions

`Expression.ofText` screens a text, splits it into lexemes and reads these as one expression. From
loose to tight there are chains of binary operators at each `Level`, the signs `-`, `+` and `!` in
front of an operand, and the operands themselves: literals, variables, calls, and expressions in
parentheses.

The reader goes through the lexemes from left to right and stops at the first that cannot stand where
it is. Passing a lexeme brings up the next place of the text, so a fault of the text that waits there
comes first (`Lexemes.pass`).

## Implementation notes

The functions that read a part return the remaining lexemes with the proof that they are fewer
(`Taken`). Parts at the same place are read from the loosest to the tightest, which is the second
component of the measure.
-/

namespace Formulary

namespace Lexemes

/-- Passes a lexeme that `rest` follows. A fault of the text at the next place comes up. -/
def pass (ending : Ending) (rest : List Located) : Except Fault Unit :=
  match rest, ending with
  | [], .faulty fault => .error fault
  | _, _ => .ok ()

/-- The lexeme at the present place, if the text has not ended, and the position of that place. -/
def here (ending : Ending) : List Located → Option Lexeme × Nat
  | ⟨lexeme, position⟩ :: _ => (some lexeme, position)
  | [] =>
    match ending with
    | .finished position => (none, position)
    | .faulty _ => (none, 0)

/-- The lexeme at the present place cannot stand there. -/
def unexpected (ending : Ending) (input : List Located) : Fault :=
  .malformed (.unexpected (here ending input).1 (here ending input).2)

/-- A closing parenthesis has to stand at the present place. -/
def unclosed (ending : Ending) (input : List Located) : Fault :=
  .malformed (.unclosed (here ending input).1 (here ending input).2)

/-- Passes a closing parenthesis. -/
def close {α : Type} {input : List Located} (ending : Ending) (t : Taken α input) :
    Except Fault (Taken α input) :=
  match h : t.rest with
  | ⟨.symbol .rightParen, _⟩ :: rest => do
    pass ending rest
    return ⟨t.value, rest, by have := t.shorter; grind⟩
  | other => .error (unclosed ending other)

end Lexemes

namespace Expression

open Lexemes

/-- What reading depends on besides the lexemes. -/
structure Rules where
  /-- The greatest depth to which operands may be nested. -/
  maxDepth : Nat
  /-- What follows the last lexeme. -/
  ending : Ending

namespace Rules

/-- Goes one level of nesting deeper than `depth`. -/
def enter (r : Rules) (depth : Nat) : Except Fault Unit :=
  if r.maxDepth ≤ depth then .error (.nestingTooDeep r.maxDepth) else .ok ()

mutual

/-- Reads a chain of operands joined by the operators of a level. -/
def chain (r : Rules) (level : Level) (depth : Nat) (input : List Located) :
    Except Fault (Taken Expression input) := do
  let first ← r.operand level depth input
  r.chainFrom level depth first
termination_by (input.length, 2 * level.rank + 3)
decreasing_by
  · exact Prod.Lex.right _ (by omega)
  · exact Prod.Lex.left _ _ first.shorter

/-- Goes on with a chain that has been read up to some place. -/
def chainFrom (r : Rules) (level : Level) (depth : Nat) {input : List Located}
    (left : Taken Expression input) : Except Fault (Taken Expression input) :=
  match h : left.rest with
  | ⟨.symbol s, _⟩ :: rest =>
    match level.join? s with
    | none => .ok left
    | some join => do
      pass r.ending rest
      let right ← r.operand level depth rest
      r.chainFrom level depth
        ⟨join left.value right.value, right.rest, by
          have := left.shorter
          have := right.shorter
          grind⟩
  | _ => .ok left
termination_by (left.rest.length, 2 * level.rank + 3)
decreasing_by
  · exact Prod.Lex.left _ _ (by simp [h])
  · exact Prod.Lex.left _ _ (by have := right.shorter; simp [h]; omega)

/-- Reads an operand of a level. -/
def operand (r : Rules) (level : Level) (depth : Nat) (input : List Located) :
    Except Fault (Taken Expression input) :=
  match level with
  | .disjunction => r.chain .conjunction depth input
  | .conjunction => r.chain .comparison depth input
  | .comparison => r.chain .sum depth input
  | .sum => r.chain .product depth input
  | .product => r.signed depth input
termination_by (input.length, 2 * level.rank + 2)
decreasing_by all_goals exact Prod.Lex.right _ (by decide)

/-- Reads an operand with the signs in front of it. -/
def signed (r : Rules) (depth : Nat) (input : List Located) :
    Except Fault (Taken Expression input) :=
  match input with
  | ⟨.symbol .minus, _⟩ :: rest => do
    pass r.ending rest
    r.enter depth
    let t ← r.signed (depth + 1) rest
    return (t.map negative).widen (by simp)
  | ⟨.symbol .plus, _⟩ :: rest => do
    pass r.ending rest
    let t ← r.signed depth rest
    return t.widen (by simp)
  | ⟨.symbol .bang, _⟩ :: rest => do
    pass r.ending rest
    r.enter depth
    let t ← r.signed (depth + 1) rest
    return (t.map not).widen (by simp)
  | other => r.primary depth other
termination_by (input.length, 1)
decreasing_by
  · exact Prod.Lex.left _ _ (by simp)
  · exact Prod.Lex.left _ _ (by simp)
  · exact Prod.Lex.left _ _ (by simp)
  · exact Prod.Lex.right _ (by decide)

/-- Reads an operand. -/
def primary (r : Rules) (depth : Nat) (input : List Located) :
    Except Fault (Taken Expression input) :=
  match input with
  | ⟨.literal v, _⟩ :: rest => do
    pass r.ending rest
    return ⟨.literal v, rest, by simp⟩
  | ⟨.var name, _⟩ :: rest => do
    pass r.ending rest
    return ⟨.var name, rest, by simp⟩
  | ⟨.name name, _⟩ :: ⟨.symbol .leftParen, _⟩ :: rest => do
    pass r.ending rest
    r.enter depth
    let t ← r.argumentList (depth + 1) rest
    return (t.map (callOf name)).widen (by simp; omega)
  | ⟨.name name, _⟩ :: rest => do
    pass r.ending rest
    return ⟨.var name, rest, by simp⟩
  | ⟨.symbol .leftParen, _⟩ :: rest => do
    pass r.ending rest
    r.enter depth
    let t ← r.chain .disjunction (depth + 1) rest
    let t ← close r.ending t
    return t.widen (by simp)
  | other => .error (unexpected r.ending other)
termination_by (input.length, 0)
decreasing_by
  · exact Prod.Lex.left _ _ (by simp only [List.length_cons]; omega)
  · exact Prod.Lex.left _ _ (by simp)

/-- Reads the arguments of a call and the parenthesis behind them. -/
def argumentList (r : Rules) (depth : Nat) (input : List Located) :
    Except Fault (Taken (List Expression) input) :=
  match input with
  | ⟨.symbol .rightParen, _⟩ :: rest => do
    pass r.ending rest
    return ⟨[], rest, by simp⟩
  | other => do
    let t ← r.arguments depth other
    close r.ending t
termination_by (input.length, 2 * Level.disjunction.rank + 5)
decreasing_by exact Prod.Lex.right _ (by decide)

/-- Reads arguments with commas between them. -/
def arguments (r : Rules) (depth : Nat) (input : List Located) :
    Except Fault (Taken (List Expression) input) := do
  let first ← r.chain .disjunction depth input
  match h : first.rest with
  | ⟨.symbol .comma, _⟩ :: rest => do
    pass r.ending rest
    let others ← r.arguments depth rest
    return (others.map (first.value :: ·)).widen (by have := first.shorter; grind)
  | _ => return first.map ([·])
termination_by (input.length, 2 * Level.disjunction.rank + 4)
decreasing_by
  · exact Prod.Lex.right _ (by decide)
  · exact Prod.Lex.left _ _ (by have := first.shorter; grind)

end

end Rules

/-- Reads lexemes as one expression. -/
def ofLexemes (maxDepth : Nat) (lexemes : Lexemes) : Except Fault Expression := do
  let r : Rules := ⟨maxDepth, lexemes.ending⟩
  pass r.ending lexemes.items
  let t ← r.chain .disjunction 0 lexemes.items
  match t.rest with
  | [] => return t.value
  | other => throw (unexpected r.ending other)

/-- Reads the text of an expression. -/
def ofChars (limits : Limits) (text : List Char) : Except Fault Expression := do
  Screen.check limits text
  ofLexemes limits.maxDepth (Lexemes.ofChars (Text.trim text))

/-- Reads the text of an expression. -/
def ofText (limits : Limits) (text : String) : Except Fault Expression := ofChars limits text.toList

end Expression

end Formulary
