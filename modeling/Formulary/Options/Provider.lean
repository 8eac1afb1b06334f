import Formulary.Options.Conversion
import Formulary.Version.Selection

/-!
# Outside providers of options

Options may come from a service (`API`) or a table (`DATABASE`) outside of the program. A provider is
asked for a target with some parameters and answers with data or with a failure.

`Traced` is a computation that asks providers: what comes out of it, and every call that it made, in
order.
-/

namespace Formulary

/-- The providers there may be. -/
inductive Provider where
  /-- A service that answers with a document. -/
  | api
  /-- A database that answers with rows. -/
  | database
deriving DecidableEq, Repr

/-- The name of a provider, which is that of the function it serves. -/
def Provider.name : Provider → String
  | api => "API"
  | database => "DATABASE"

/-- What can go wrong with a form. -/
inductive EngineFault where
  /-- A fault of an expression, or among fields. -/
  | formula (cause : Fault)
  /-- There is no such provider. -/
  | providerUnavailable (provider : Provider)
  /-- A provider failed. -/
  | providerFailed (provider : Provider) (target reason : String)
  /-- A version could not be stored. -/
  | source (cause : HistoryFault)
  /-- There is no version to evaluate. -/
  | selection (cause : SelectionFault)
deriving DecidableEq, Repr

/-- What is said about a fault. -/
def EngineFault.message : EngineFault → String
  | formula cause => cause.message
  | providerUnavailable provider => s!"No {provider.name} provider configured"
  | providerFailed provider target reason =>
    s!"{provider.name} provider failed for '{target}': {reason}"
  | source cause => s!"Formula source error: {cause.message}"
  | selection cause => cause.message

/-- The providers of a program, each if it is there. -/
structure Providers where
  /-- What a service answers to a target and parameters. -/
  api : Option (String → List Value → Except String Document) := none
  /-- What a database answers to a query and parameters. -/
  database : Option (String → List Value → Except String (List OptionList.Row)) := none

namespace Providers

/-- A service with fixed answers. -/
def ofResponses (responses : NameMap Document) (target : String) (_ : List Value) :
    Except String Document :=
  match responses.get? target with
  | some document => .ok document
  | none => .error s!"unknown endpoint '{target}'"

/-- A database with fixed answers. -/
def ofTables (tables : NameMap (List OptionList.Row)) (target : String) (_ : List Value) :
    Except String (List OptionList.Row) :=
  match tables.get? target with
  | some rows => .ok rows
  | none => .error s!"unknown query '{target}'"

end Providers

/-- A call of a provider. -/
structure ProviderCall where
  /-- The provider. -/
  provider : Provider
  /-- What it was asked for. -/
  target : String
  /-- With which parameters. -/
  parameters : List Value
deriving DecidableEq, Repr

/-- A computation that asks providers. -/
structure Traced (α : Type) where
  /-- The calls that it made, in order. -/
  calls : List ProviderCall
  /-- What came out of it. -/
  outcome : Except EngineFault α

namespace Traced

variable {α β : Type}

/-- What came out of a computation that asks no provider. -/
def ofExcept (outcome : Except Fault α) : Traced α := ⟨[], outcome.mapError .formula⟩

/-- Goes on with what came out, if anything did. -/
def bind (t : Traced α) (next : α → Traced β) : Traced β :=
  match t.outcome with
  | .error fault => ⟨t.calls, .error fault⟩
  | .ok a => ⟨t.calls ++ (next a).calls, (next a).outcome⟩

instance : Monad Traced where
  pure a := ⟨[], .ok a⟩
  bind := bind

/-- A call of a provider. -/
def ask (call : ProviderCall) (answer : Except String α) : Traced α :=
  ⟨[call], answer.mapError (.providerFailed call.provider call.target)⟩

/-- A call of a provider that may not be there. -/
def askIfPresent (call : ProviderCall) (answer? : Option (String → List Value → Except String α)) :
    Traced α :=
  match answer? with
  | none => ⟨[], .error (.providerUnavailable call.provider)⟩
  | some answer => ask call (answer call.target call.parameters)

end Traced

namespace Providers

/-- The options that the provider behind a function has for some arguments: the first is the target, the
others are the parameters. -/
def options (providers : Providers) (function : String) :
    List Value → Traced (List OptionItem)
  | [] => .ofExcept (.error (.invalidArgument function .missingTarget))
  | .string target :: parameters =>
    if function = Provider.api.name then do
      let document ← Traced.askIfPresent ⟨.api, target, parameters⟩ providers.api
      .ofExcept (OptionList.ofDocument document)
    else if function = Provider.database.name then do
      let rows ← Traced.askIfPresent ⟨.database, target, parameters⟩ providers.database
      .ofExcept (OptionList.ofRows rows)
    else .ofExcept (.error (.externalCall function))
  | other :: _ => .ofExcept (.error (.typeMismatch function 1 .string (some other.kind)))

end Providers

end Formulary
