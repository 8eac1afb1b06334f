import Formulary.Text.Case
import Formulary.Value.Basic

/-!
# Expressions

An `Expression` is a literal, a variable or a call. Operators are calls too: `a + b` is the call of
`ADD` with `a` and `b`.

`Expression.variableNames` and `Expression.functions` are the names that an expression uses, wherever they
stand in it; `Expression.depth` is how deep its calls are nested.
-/

namespace Formulary

/-- An expression. -/
inductive Expression where
  /-- A value. -/
  | literal (v : Value)
  /-- The value of a name. -/
  | var (name : String)
  /-- A function applied to arguments. -/
  | call (function : String) (arguments : List Expression)
deriving Repr, Inhabited

namespace Expression

/-- A call of a function whose name is written in any case. -/
def callOf (function : String) (arguments : List Expression) : Expression :=
  call (Text.upperString function) arguments

mutual

/-- The names of the variables, in the order they stand in. -/
def mentions : Expression → List String
  | literal _ => []
  | var name => [name]
  | call _ arguments => mentionsOfAll arguments

/-- The names of the variables of several expressions. -/
def mentionsOfAll : List Expression → List String
  | [] => []
  | e :: rest => e.mentions ++ mentionsOfAll rest

end

/-- The names of the variables, ascending, each once. -/
def variableNames (e : Expression) : List String :=
  (NameMap.ofList (e.mentions.map (·, ()))).names

mutual

/-- The calls, each before those in its arguments: the name of the function and the number of
arguments. -/
def calls : Expression → List (String × Nat)
  | literal _ => []
  | var _ => []
  | call function arguments => (function, arguments.length) :: callsOfAll arguments

/-- The calls of several expressions. -/
def callsOfAll : List Expression → List (String × Nat)
  | [] => []
  | e :: rest => e.calls ++ callsOfAll rest

end

/-- The names of the functions called, in the order of the calls. -/
def functions (e : Expression) : List String := e.calls.map (·.1)

mutual

/-- How many calls are nested in one another. -/
def depth : Expression → Nat
  | literal _ => 0
  | var _ => 0
  | call _ arguments => 1 + depthOfAll arguments

/-- The greatest depth of several expressions. -/
def depthOfAll : List Expression → Nat
  | [] => 0
  | e :: rest => max e.depth (depthOfAll rest)

end

end Expression

end Formulary
