import Formulary.CommandLine.Argument

/-!
# Commands

The commands of the program, and how the arguments of a command line ask for one of them.
-/

namespace Formulary.CommandLine

/-- Something that the program does. -/
inductive Verb where
  | eval
  | validate
  | functions
  | operators
  | graph
  | recalc
  | options
deriving DecidableEq, Repr

/-- A thing to do, with what it is done to. Paths name files. -/
inductive Command where
  /-- Evaluates an expression, for the data in a file, at a time. -/
  | evaluate (expression : String) (data now : Option String)
  /-- Checks an expression, perhaps against known names. -/
  | validate (expression : String) (known? : Option (List String))
  /-- Lists the functions. -/
  | listFunctions
  /-- Lists the operators. -/
  | listOperators
  /-- Shows the dependency graph of the fields in a file. -/
  | showGraph (fields : String)
  /-- Recalculates a form, as a whole or after a change of one field. -/
  | recalculate (fields data : String) (changed : Option String)
  /-- Resolves an expression for options, with canned answers of the providers. -/
  | resolve (expression : String) (data fixtures : Option String)
deriving DecidableEq, Repr

/-- The option that names the file with form data. -/
def dataOption : NamedOption := { name := "data", letter := some 'd', isPath := true }

namespace Verb

/-- All verbs, in the order in which they are shown. -/
def all : List Verb := [eval, validate, functions, operators, graph, recalc, options]

/-- The arguments that a verb takes. -/
def layout : Verb → Layout
  | eval =>
    { name := "eval"
      purpose := "Evaluate an expression and print the result as JSON"
      operands := [⟨"EXPRESSION", false⟩]
      options := [dataOption, { name := "now" }] }
  | validate =>
    { name := "validate"
      purpose := "Check an expression without evaluating it"
      operands := [⟨"EXPRESSION", false⟩]
      options := [{ name := "variables", repeats := true }] }
  | functions => { name := "functions", purpose := "List the built-in functions" }
  | operators => { name := "operators", purpose := "List the supported operators" }
  | graph =>
    { name := "graph"
      purpose := "Print the dependency graph of a field list"
      operands := [⟨"FIELDS", true⟩] }
  | recalc =>
    { name := "recalc"
      purpose := "Recalculate the calculated fields of a form"
      operands := [⟨"FIELDS", true⟩, ⟨"DATA", true⟩]
      options := [{ name := "changed", letter := some 'c' }] }
  | options =>
    { name := "options"
      purpose := "Resolve an options expression"
      operands := [⟨"EXPRESSION", false⟩]
      options := [dataOption, { name := "fixtures", isPath := true }] }

/-- The command of a verb with the values given to it; none if there are not as many operands as the
verb takes. -/
def command? (verb : Verb) (g : Given) : Option Command :=
  match verb, g.operands with
  | eval, [expression] => some (.evaluate expression (g.value? "data") (g.value? "now"))
  | validate, [expression] =>
    match g.valuesOf "variables" with
    | [] => some (.validate expression none)
    | lists => some (.validate expression (some (lists.flatMap fun list => list.splitOn ",")))
  | functions, [] => some .listFunctions
  | operators, [] => some .listOperators
  | graph, [fields] => some (.showGraph fields)
  | recalc, [fields, data] => some (.recalculate fields data (g.value? "changed"))
  | options, [expression] => some (.resolve expression (g.value? "data") (g.value? "fixtures"))
  | _, _ => none

/-- The verb of that name. -/
def ofName? (name : String) : Option Verb := all.find? fun verb => verb.layout.name = name

end Verb

namespace Command

/-- What may stand in front of the name of a command. -/
def outerLayout : Layout :=
  { name := "formcalc", purpose := "Evaluate and check form formulas", hasVersion := true }

/-- The help that arguments behind `help` ask for. -/
def helpFor : List String → Detour
  | [] => .help outerLayout
  | [name] =>
    match Verb.ofName? name with
    | some verb => .help verb.layout
    | none => if name = "help" then .help outerLayout else .usage (.unknownCommand name)
  | name :: other :: _ =>
    match Verb.ofName? name with
    | some _ => .usage (.unknownCommand other)
    | none => .usage (.unknownCommand name)

/-- The command that arguments ask for. -/
def ofArguments : List String → Except Detour Command
  | [] => .error (.usage .noCommand)
  | argument :: rest => do
    match ← outerLayout.meaning argument with
    | .nothing => ofArguments rest
    | .operand name =>
      match Verb.ofName? name with
      | none =>
        if name = "help" then .error (helpFor rest) else .error (.usage (.unknownCommand name))
      | some verb =>
        match verb.command? (← verb.layout.read rest) with
        | some command => return command
        | none => .error (.usage .noCommand)
    | _ => .error (.usage (.unexpectedArgument argument))

/-- The files that a command reads, in that order. -/
def paths : Command → List String
  | evaluate _ data _ => data.toList
  | validate _ _ => []
  | listFunctions => []
  | listOperators => []
  | showGraph fields => [fields]
  | recalculate fields data _ => [fields, data]
  | resolve _ data fixtures => data.toList ++ fixtures.toList

end Command

end Formulary.CommandLine
