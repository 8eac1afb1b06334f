import Formulary.Lexeme.Basic
import Formulary.Value.Coding

/-!
# Faults

Everything that can go wrong with an expression: in its text, in its evaluation, and among the fields
that refer to one another. Each constructor is one cause and carries what its message tells;
`Fault.message` is the only place where the wording is.

Positions count the bytes before the place in question. Arguments are numbered from one.
-/

namespace Formulary

/-- What is wrong with the structure of an expression text. -/
inductive SyntaxFault where
  /-- Half of a two-character operator. -/
  | unsupportedOperator (c : Char) (position : Nat)
  /-- A character that starts no lexeme. -/
  | unexpectedChar (c : Char) (position : Nat)
  /-- A number that no decimal holds. -/
  | invalidNumber (text : String) (position : Nat)
  /-- A variable mark without a name. -/
  | missingVariableName (position : Nat)
  /-- A bracket that is not closed. -/
  | unterminatedList (position : Nat)
  /-- Brackets around something that is no document. -/
  | unreadableList (text : String) (position : Nat)
  /-- Brackets around something that is no list of options. -/
  | invalidList (position : Nat) (cause : DecodeFault)
  /-- A lexeme, or the end of the text, where an operand has to stand or nothing more may follow. -/
  | unexpected (found : Option Lexeme) (position : Nat)
  /-- A lexeme, or the end of the text, where a closing parenthesis has to stand. -/
  | unclosed (found : Option Lexeme) (position : Nat)
deriving DecidableEq, Repr

/-- What is said about the structure of an expression text. -/
def SyntaxFault.message : SyntaxFault → String
  | unsupportedOperator c position => s!"Unsupported operator '{c}' at position {position}"
  | unexpectedChar c position => s!"Unexpected character '{c}' at position {position}"
  | invalidNumber text position => s!"Invalid number '{text}' at position {position}"
  | missingVariableName position => s!"Expected a variable name after '$' at position {position}"
  | unterminatedList position => s!"Unterminated option list starting at position {position}"
  | unreadableList text position =>
    s!"Invalid option list at position {position}: {Document.complaint text}"
  | invalidList position cause => s!"Invalid option list at position {position}: {cause.message}"
  | unexpected found position => s!"Unexpected {Lexeme.describe? found} at position {position}"
  | unclosed found position =>
    s!"Expected {Symbol.rightParen.name}, got {Lexeme.describe? found} at position {position}"

/-- What is wrong with an argument that is of the right kind. -/
inductive ArgumentFault where
  /-- A whole number is wanted. -/
  | notWhole (position : Nat) (n : Decimal)
  /-- There is no such number of places. -/
  | invalidPlaces (places : Int)
  /-- At least one argument is wanted. -/
  | noArguments
  /-- Two values are wanted. -/
  | notTwoValues
  /-- A part of a text cannot start before the text. -/
  | negativeStart
  /-- A part of a text cannot have less than no characters. -/
  | negativeLength
  /-- There is no such unit of time. -/
  | unknownUnit (text : String)
  /-- The pattern for dates cannot be read. -/
  | invalidPattern (text : String)
  /-- The pattern for dates asks for a time zone. -/
  | zonedPattern (text : String)
  /-- An option list is wanted. -/
  | missingOptions
  /-- The name of what to ask an outside provider for is wanted. -/
  | missingTarget
deriving DecidableEq, Repr

/-- What is said about an argument. -/
def ArgumentFault.message : ArgumentFault → String
  | notWhole position n => s!"argument {position} must be a whole number, got {n.toText}"
  | invalidPlaces places => s!"digits must be between 0 and {Decimal.maxScale}, got {places}"
  | noArguments => "no arguments"
  | notTwoValues => "expected two values"
  | negativeStart => "start must not be negative"
  | negativeLength => "length must not be negative"
  | unknownUnit text => s!"unknown date unit '{text}'"
  | invalidPattern text => s!"invalid date pattern '{text}'"
  | zonedPattern text => s!"date pattern '{text}' needs a time zone"
  | missingOptions => "missing option list"
  | missingTarget => "missing target"

/-- Why there is no option list in what was given. -/
inductive OptionListFault where
  /-- A text that is no document. -/
  | unreadable (text : String)
  /-- An object without a member that holds options. -/
  | noOptionMember
  /-- A document that is neither an array nor an object. -/
  | notAnArray (text : String)
  /-- A row without columns. -/
  | emptyRow
  /-- An item that is no option. -/
  | invalidItem (cause : DecodeFault)
deriving DecidableEq, Repr

/-- What is said about something that is no option list. -/
def OptionListFault.message : OptionListFault → String
  | unreadable text => Document.complaint text
  | noOptionMember => "object without an option array"
  | notAnArray text => s!"expected an array, got {text}"
  | emptyRow => "empty row"
  | invalidItem cause => cause.message

/-- What can go wrong with an expression. -/
inductive Fault where
  /-- The text is blank. -/
  | emptyExpression
  /-- A parenthesis has no partner. -/
  | unbalancedParentheses (position : Nat)
  /-- A quoted text is not closed. -/
  | unterminatedString (position : Nat)
  /-- The text has no structure. -/
  | malformed (cause : SyntaxFault)
  /-- The text has more characters than it may. -/
  | expressionTooLong (length limit : Nat)
  /-- Operands are nested deeper than they may. -/
  | nestingTooDeep (limit : Nat)
  /-- The text holds a forbidden word or sequence. -/
  | unsafeExpression (token : String)
  /-- There is no function of that name. -/
  | unknownFunction (name : String)
  /-- The function takes another number of arguments. -/
  | arityMismatch (function expected : String) (actual : Nat)
  /-- An argument is of another kind than wanted, or missing. -/
  | typeMismatch (function : String) (position : Nat) (expected : ValueKind)
      (actual : Option ValueKind)
  /-- There is no value under that name. -/
  | unknownVariable (name : String)
  /-- The divisor is zero. -/
  | divisionByZero
  /-- A result is too large. -/
  | numericOverflow (operation : String)
  /-- An argument cannot be used. -/
  | invalidArgument (function : String) (cause : ArgumentFault)
  /-- The function belongs into options expressions. -/
  | optionsOnly (function : String)
  /-- The function is served by an outside provider. -/
  | externalCall (function : String)
  /-- There is no option list in what was given. -/
  | invalidOptions (cause : OptionListFault)
  /-- There are more options than there may be. -/
  | optionLimitExceeded (count limit : Nat)
  /-- Two fields have one name. -/
  | duplicateField (name : String)
  /-- Fields refer to one another in a circle; the first field of the path is repeated at its end. -/
  | cycleDetected (path : List String)
deriving DecidableEq, Repr

namespace Fault

/-- What is said about a fault. -/
def message : Fault → String
  | emptyExpression => "Expression is empty"
  | unbalancedParentheses position => s!"Unbalanced parentheses at position {position}"
  | unterminatedString position => s!"Unterminated string literal starting at position {position}"
  | malformed cause => s!"Syntax error: {cause.message}"
  | expressionTooLong length limit => s!"Expression is {length} characters long (limit {limit})"
  | nestingTooDeep limit => s!"Expression nesting exceeds depth {limit}"
  | unsafeExpression token => s!"Unsafe expression: forbidden token '{token}'"
  | unknownFunction name => s!"Unknown function: {name}"
  | arityMismatch function expected actual =>
    s!"Wrong number of arguments for {function}: expected {expected}, got {actual}"
  | typeMismatch function position expected actual =>
    s!"{function} argument {position}: expected {expected.name}, got {ValueKind.nameOf actual}"
  | unknownVariable name => s!"Unknown variable: {name}"
  | divisionByZero => "Division by zero"
  | numericOverflow operation => s!"Numeric overflow in {operation}"
  | invalidArgument function cause => s!"Invalid argument for {function}: {cause.message}"
  | optionsOnly function => s!"{function} is only available in options expressions"
  | externalCall function => s!"{function} requires the options resolver"
  | invalidOptions cause => s!"Invalid option list: {cause.message}"
  | optionLimitExceeded count limit => s!"Option list has {count} entries (limit {limit})"
  | duplicateField name => s!"Duplicate field name: {name}"
  | cycleDetected path => "Circular dependency: " ++ " -> ".intercalate path

/-- Whether the text of the expression is at fault, and not what it is applied to. -/
def isSyntax : Fault → Bool
  | emptyExpression => true
  | unbalancedParentheses _ => true
  | unterminatedString _ => true
  | malformed _ => true
  | expressionTooLong _ _ => true
  | nestingTooDeep _ => true
  | _ => false

end Fault

end Formulary
