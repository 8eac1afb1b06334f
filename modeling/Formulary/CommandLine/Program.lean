import Formulary.CommandLine.Command
import Formulary.CommandLine.Loading
import Formulary.Dependency.Coding
import Formulary.Engine
import Formulary.Function.Coding
import Formulary.Value.Coding

/-!
# The program

`Command.run` does a command with an engine of its own and says what the program writes and with which
code it ends: 0 if all is well, 1 if the command failed or found something wrong. Arguments that are
no command end it with 2.
-/

namespace Formulary.CommandLine

/-- What a program leaves behind. -/
structure Outcome where
  /-- The code with which it ends. -/
  exitCode : Nat := 0
  /-- What it writes as its result. -/
  output : String := ""
  /-- What it writes about failures. -/
  complaint : String := ""
deriving DecidableEq, Repr

namespace Outcome

/-- A document as the result. -/
def ofDocument (d : Document) : Outcome := { output := d.renderPretty ++ "\n" }

/-- A failure. -/
def ofFailure (message : String) : Outcome := { exitCode := 1, complaint := message ++ "\n" }

end Outcome

/-- What brought about a fault, from the fault itself on. -/
def causesOf (fault : EngineFault) : List String :=
  match fault with
  | .providerFailed _ _ reason => [fault.message, reason]
  | _ => [fault.message]

/-- A report as a document. -/
def reportDocument (r : Report) : Document :=
  .ofMembers
    [("is_valid", .bool r.isValid), ("errors", .ofStrings r.messages),
      ("security_issues", .ofStrings r.securityIssues)]

/-- Form data as a document. -/
def dataDocument (data : FormData) : Document := .object (data.map Value.toDocument).entries

/-- A failed formula as a document. -/
def failureDocument (f : FieldFailure) : Document :=
  .ofMembers [("field", .string f.field), ("error", .string f.fault.message)]

/-- A recalculation as a document. -/
def recalculatedDocument (r : Recalculated) : Document :=
  .ofMembers
    [("data", dataDocument r.data), ("recomputed", .ofStrings r.recomputed),
      ("failures", .array (r.failures.map failureDocument))]

/-- The time that an argument names. -/
def timeOf (now : DateTime) : Option String → Except Failure DateTime
  | none => .ok now
  | some text =>
    match DateTime.ofText? text with
    | some time => .ok time
    | none => .error ⟨s!"Invalid --now value: {text}", []⟩

namespace Command

/-- Does a command, for the files that there are, at a time. -/
def attempt (files : Files) (now : DateTime) : Command → Except Failure Outcome
  | evaluate expression data time => do
    let data ← files.dataOrNone data
    let engine := Engine.new (← timeOf now time) {}
    match (engine.evaluate data expression).1 with
    | .ok v => return .ofDocument v.toDocument
    | .error fault => throw ⟨s!"Failed to evaluate: {expression}", [fault.message]⟩
  | validate expression known? => do
    let report := (Engine.new now {}).review known? expression
    return { Outcome.ofDocument (reportDocument report) with exitCode := if report.isValid then 0 else 1 }
  | listFunctions => return .ofDocument (.array (Registry.builtin.signatures.map Signature.toDocument))
  | listOperators => return .ofDocument (.array (Operator.all.map Operator.toDocument))
  | showGraph fields => do
    match (Engine.new now {}).graph (← files.fields fields) with
    | .ok graph => return .ofDocument graph.toDocument
    | .error fault => return .ofFailure fault.message
  | recalculate fields data changed => do
    let fields ← files.fields fields
    let data ← files.data data
    match (Engine.new now {}).recalculate fields changed data with
    | .ok recalculated => return .ofDocument (recalculatedDocument recalculated)
    | .error fault => return .ofFailure fault.message
  | resolve expression data fixtures => do
    let data ← files.dataOrNone data
    let engine := Engine.new now {}
    let engine ← match fixtures with
      | some path => (files.providers path).map fun providers => { engine with providers }
      | none => .ok engine
    match (engine.resolve data expression).1.outcome with
    | .ok options => return .ofDocument (.array (options.map OptionItem.toDocument))
    | .error fault => throw ⟨s!"Failed to resolve options: {expression}", causesOf fault⟩

/-- Does a command and gives what the program leaves behind. -/
def run (files : Files) (now : DateTime) (command : Command) : Outcome :=
  match command.attempt files now with
  | .ok outcome => outcome
  | .error failure => .ofFailure failure.message

end Command

/-- What the program leaves behind when it is not asked for a command. -/
def Detour.outcome : Detour → Outcome
  | usage fault => { exitCode := 2, complaint := s!"error: {fault.message}\n" }
  | help layout =>
    if layout = Command.outerLayout then
      let verbs := Verb.all.map fun verb => s!"\n  {verb.layout.name}: {verb.layout.purpose}"
      { output := layout.help ++ "\nCommands:" ++ String.join verbs ++ "\n" }
    else { output := layout.help }
  | version => { output := "formcalc 0.1.0\n" }

end Formulary.CommandLine
