import Formulary.Value.Basic

/-!
# Lexemes

The smallest units of expression text: literals, names, and the symbols that stand for operators,
grouping and the separation of arguments.
-/

namespace Formulary

/-- A symbol of expression text. -/
inductive Symbol where
  | plus
  | minus
  | star
  | slash
  | equal
  | notEqual
  | lessThan
  | lessEqual
  | greaterThan
  | greaterEqual
  | and
  | or
  | bang
  | comma
  | leftParen
  | rightParen
deriving DecidableEq, Repr

/-- The name of a symbol in messages. -/
def Symbol.name : Symbol → String
  | plus => "Plus"
  | minus => "Minus"
  | star => "Star"
  | slash => "Slash"
  | equal => "Equal"
  | notEqual => "NotEqual"
  | lessThan => "LessThan"
  | lessEqual => "LessEqual"
  | greaterThan => "GreaterThan"
  | greaterEqual => "GreaterEqual"
  | and => "And"
  | or => "Or"
  | bang => "Bang"
  | comma => "Comma"
  | leftParen => "LeftParen"
  | rightParen => "RightParen"

/-- A unit of expression text. -/
inductive Lexeme where
  /-- A number, a quoted text, a keyword or a bracketed option list. -/
  | literal (v : Value)
  /-- A bare name: a function if an argument list follows, else a variable. -/
  | name (s : String)
  /-- A name marked as a variable. -/
  | var (s : String)
  /-- A symbol. -/
  | symbol (s : Symbol)
deriving DecidableEq, Repr

namespace Lexeme

/-- A literal in messages. -/
def describeLiteral : Value → String
  | .number n => s!"number {n.toText}"
  | .boolean b => s!"boolean {Value.boolText b}"
  | .string s => s!"string '{s}'"
  | .dateTime d => s!"date {d.toText}"
  | .optionList _ => "option list"
  | .null => "null"

/-- A lexeme in messages. -/
def describe : Lexeme → String
  | literal v => describeLiteral v
  | name s => s!"identifier '{s}'"
  | var s => s!"identifier '{s}'"
  | symbol s => s.name

/-- A lexeme in messages, if there is one, or else the end of the text. -/
def describe? (found : Option Lexeme) : String := found.elim "end of expression" describe

end Lexeme

end Formulary
