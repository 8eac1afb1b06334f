import Formulary.Options.Resolver
import Formulary.Recalculation
import Formulary.Review

/-!
# The engine

An `Engine` brings together what a form service needs: limits, functions, providers, a clock, the cache of
options and the trail of what was evaluated. Its operations are those of the other modules, each with the
settings of the engine. An operation that changes the engine gives back the engine that it has become.

The **trail** takes a record of every evaluation. Whether it accepts the record does not matter to the
value.
-/

namespace Formulary

/-- A record of an evaluation. -/
structure AuditRecord where
  /-- The expression. -/
  expression : String
  /-- The names that it mentions with their values. -/
  inputs : FormData
  /-- What came out of it. -/
  result : Except Fault Value

/-- A trail of evaluations. -/
structure AuditTrail where
  /-- The records, the latest first. -/
  records : List AuditRecord := []
  /-- Whether the trail reports that a record was taken down. -/
  accepts : Bool := true

/-- Takes down a record, and says whether that is reported as a success. -/
def AuditTrail.record (trail : AuditTrail) (r : AuditRecord) : AuditTrail × Bool :=
  ({ trail with records := r :: trail.records }, trail.accepts)

/-- A form engine. -/
structure Engine where
  /-- How large an expression may be. -/
  limits : Limits := {}
  /-- The functions there are. -/
  registry : Registry := .builtin
  /-- The time. -/
  now : DateTime
  /-- Whether a field whose formula fails takes the default of its type if it has no value. -/
  defaultOnFailure : Bool := true
  /-- The greatest number of options. -/
  maxOptions : Nat := 1000
  /-- The outside providers. -/
  providers : Providers := {}
  /-- The cache of options. -/
  cache : OptionsCache
  /-- The trail of evaluations, if one is kept. -/
  trail : Option AuditTrail := none

namespace Engine

/-- How keys are spread over the shards of a cache: by the length of the expression. -/
def spread (key : CacheKey) : Nat := key.expression.length

/-- An engine with an empty cache and nothing else set. -/
def new (now : DateTime) (config : CacheConfig) : Engine := { now, cache := .empty config spread }

/-- The context in which formulas and conditions are evaluated. -/
def context (e : Engine) (data : FormData) : Context :=
  { data, registry := e.registry, now := e.now }

/-! ### Evaluation -/

/-- The part of form data that a text mentions; nothing if the text cannot be read. -/
def mentionedInputs (parsed : Except Fault Expression) (data : FormData) : FormData :=
  match parsed with
  | .ok expression => data.restrict fun name => expression.variableNames.contains name
  | .error _ => .empty

/-- The record of the evaluation of a text. -/
def auditRecord (e : Engine) (data : FormData) (text : String) : AuditRecord :=
  let parsed := Expression.ofText e.limits text
  ⟨text, mentionedInputs parsed data, parsed >>= (e.context data).evaluate⟩

/-- Evaluates a text and takes that down in the trail. -/
def evaluate (e : Engine) (data : FormData) (text : String) : Except Fault Value × Engine :=
  let r := e.auditRecord data text
  (r.result, { e with trail := e.trail.map fun trail => (trail.record r).1 })

/-- Evaluates a stored formula: the version asked for, or the highest one in force. -/
def evaluateFormula (e : Engine) (source : FormulaSource) (name : String) (pinned : Option Nat)
    (data : FormData) : Except EngineFault Value × Engine :=
  match source.get? name with
  | none => (.error (.selection (.unknownFormula name)), e)
  | some history =>
    match history.select pinned e.now with
    | .error fault => (.error (.selection fault), e)
    | .ok version =>
      let (result, e) := e.evaluate data version.expression
      (result.mapError .formula, e)

/-! ### Review and rules -/

/-- What is wrong with a text. -/
def review (e : Engine) (known? : Option (List String)) (text : String) : Report :=
  Report.ofText e.limits e.registry known? text

/-- Checks that a text may be published. -/
def checkPublishable (e : Engine) (text : String) : Except Fault Unit :=
  Formulary.checkPublishable e.limits e.registry text

/-- Whether a condition holds. -/
def holds (e : Engine) (data : FormData) (text : String) : Bool := (e.context data).holds e.limits text

/-- The rules of a field that apply. -/
def activeRules (e : Engine) (data : FormData) (f : Field) : List ValidationRule :=
  f.activeRules (e.context data) e.limits

/-- The rules across fields that do not hold. -/
def crossFieldViolations (e : Engine) (data : FormData) (fields : List Field) : List Violation :=
  Formulary.crossFieldViolations fields (e.context data) e.limits

/-! ### Recalculation -/

/-- The dependency graph of a form. -/
def graph (e : Engine) (fields : List Field) : Except Fault DependencyGraph :=
  DependencyGraph.ofFields e.limits fields

/-- What a recalculation depends on. -/
def recalcRules (e : Engine) : RecalcRules :=
  { limits := e.limits, registry := e.registry, now := e.now, defaultOnFailure := e.defaultOnFailure }

/-- Recalculates a form by a graph that was built before. -/
def recalculateBy (e : Engine) (graph : DependencyGraph) (fields : List Field)
    (changed : Option String) (data : FormData) : Recalculated :=
  e.recalcRules.run fields graph changed data

/-- Recalculates a form. -/
def recalculate (e : Engine) (fields : List Field) (changed : Option String) (data : FormData) :
    Except Fault Recalculated :=
  e.recalcRules.recalculate fields changed data

/-! ### Options -/

/-- What options depend on. -/
def optionsRules (e : Engine) : OptionsRules :=
  { limits := e.limits, registry := e.registry, now := e.now, maxOptions := e.maxOptions,
    providers := e.providers }

/-- The options that an expression yields. -/
def resolve (e : Engine) (data : FormData) (text : String) : Traced (List OptionItem) × Engine :=
  let (resolved, cache) := e.optionsRules.resolve e.cache text data
  (resolved, { e with cache })

/-- The options of all fields that have an expression for them, with the calls made. A field whose
expression fails has none. -/
def resolveMany (e : Engine) (data : FormData) :
    List Field → NameMap (List OptionItem) → List ProviderCall →
      NameMap (List OptionItem) × List ProviderCall × Engine
  | [], resolved, calls => (resolved, calls, e)
  | f :: rest, resolved, calls =>
    match f.dynamicOptions with
    | none => e.resolveMany data rest resolved calls
    | some text =>
      let (found, e) := e.resolve data text
      let options :=
        match found.outcome with
        | .ok options => options
        | .error _ => []
      e.resolveMany data rest (resolved.insert f.name options) (calls ++ found.calls)

/-- The options that a filter lets pass. -/
def filter (e : Engine) (data : FormData) (options? : Option (List OptionItem)) (text : String) :
    Except Fault (List OptionItem) :=
  e.optionsRules.filter options? text data

/-- Drops all cached options. -/
def clearCache (e : Engine) : Engine := { e with cache := e.cache.clear }

/-- Lets time go by for the cached options. What expressions take for the time stays as it is. -/
def wait (e : Engine) (duration : Nat) : Engine := { e with cache := e.cache.wait duration }

end Engine

end Formulary
