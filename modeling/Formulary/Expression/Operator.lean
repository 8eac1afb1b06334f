import Formulary.Expression.Basic
import Formulary.Lexeme.Basic

/-!
# Operators

What the operators of expression text stand for. Binary operators bind at one of five **levels**, and
those of one level group to the left. Every operator is a call, some inside a `NOT`.

`Operator.all` lists the symbols of expression text for those who write expressions.
-/

namespace Formulary

/-- How tightly a binary operator binds, from the loosest to the tightest. -/
inductive Level where
  | disjunction
  | conjunction
  | comparison
  | sum
  | product
deriving DecidableEq, Repr

namespace Expression

/-- The negation of a condition. -/
def not (e : Expression) : Expression := call "NOT" [e]

/-- The negative of an expression; that of a number is a number. -/
def negative : Expression → Expression
  | literal (.number n) => literal (.number (-n))
  | e => call "SUBTRACT" [literal (.number .zero), e]

end Expression

namespace Level

/-- The place of a level, the tightest first. -/
def rank : Level → Nat
  | product => 0
  | sum => 1
  | comparison => 2
  | conjunction => 3
  | disjunction => 4

/-- What a symbol makes of its operands, if it is an operator of that level. -/
def join? : Level → Symbol → Option (Expression → Expression → Expression)
  | disjunction, .or => some fun a b => .call "OR" [a, b]
  | conjunction, .and => some fun a b => .call "AND" [a, b]
  | comparison, .equal => some fun a b => .call "EQUALS" [a, b]
  | comparison, .notEqual => some fun a b => .not (.call "EQUALS" [a, b])
  | comparison, .lessThan => some fun a b => .call "LESS_THAN" [a, b]
  | comparison, .lessEqual => some fun a b => .not (.call "GREATER_THAN" [a, b])
  | comparison, .greaterThan => some fun a b => .call "GREATER_THAN" [a, b]
  | comparison, .greaterEqual => some fun a b => .not (.call "LESS_THAN" [a, b])
  | sum, .plus => some fun a b => .call "ADD" [a, b]
  | sum, .minus => some fun a b => .call "SUBTRACT" [a, b]
  | product, .star => some fun a b => .call "MULTIPLY" [a, b]
  | product, .slash => some fun a b => .call "DIVIDE" [a, b]
  | _, _ => none

end Level

/-- A symbol of expression text, for those who write expressions. -/
structure Operator where
  /-- The symbol. -/
  symbol : String
  /-- The function that the operator calls, if it is one. -/
  function : Option String
  /-- What it is for. -/
  description : String
deriving DecidableEq, Repr

/-- The symbols of expression text. -/
def Operator.all : List Operator :=
  [⟨"+", some "ADD", "Addition"⟩,
    ⟨"-", some "SUBTRACT", "Subtraction or negation"⟩,
    ⟨"*", some "MULTIPLY", "Multiplication"⟩,
    ⟨"/", some "DIVIDE", "Division"⟩,
    ⟨"==", some "EQUALS", "Equal to"⟩,
    ⟨"!=", some "EQUALS", "Not equal to"⟩,
    ⟨">", some "GREATER_THAN", "Greater than"⟩,
    ⟨"<", some "LESS_THAN", "Less than"⟩,
    ⟨">=", some "LESS_THAN", "Greater than or equal to"⟩,
    ⟨"<=", some "GREATER_THAN", "Less than or equal to"⟩,
    ⟨"&&", some "AND", "Logical and"⟩,
    ⟨"||", some "OR", "Logical or"⟩,
    ⟨"!", some "NOT", "Logical not"⟩,
    ⟨"(", none, "Group or argument list start"⟩,
    ⟨")", none, "Group or argument list end"⟩,
    ⟨",", none, "Argument separator"⟩]

end Formulary
