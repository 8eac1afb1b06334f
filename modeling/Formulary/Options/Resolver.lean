import Formulary.Evaluation
import Formulary.Options.Cache
import Formulary.Options.Provider

/-!
# Resolving options

`OptionsRules.resolve` gives the options that an expression yields. Calls of outside providers are
carried out from left to right wherever they stand in the expression, and only where their value
counts: not in a branch that is not taken, nor behind the argument that decides a conjunction or a
disjunction. Whatever calls no provider is evaluated as any other expression.

A list that does not depend on the time is kept in the cache; a list that could not be had is not.

`OptionsRules.filter` keeps the options that a condition holds for.
-/

namespace Formulary

/-- What options depend on besides the expression and the data. -/
structure OptionsRules where
  /-- How large an expression may be. -/
  limits : Limits := {}
  /-- The functions there are. -/
  registry : Registry := .builtin
  /-- The time. -/
  now : DateTime
  /-- The greatest number of options. -/
  maxOptions : Nat := 1000
  /-- The outside providers. -/
  providers : Providers := {}

namespace OptionsRules

/-- The context in which an expression for options is evaluated. -/
def context (rules : OptionsRules) (data : FormData) : Context :=
  { data, registry := rules.registry, scope := .options, now := rules.now }

/-- Whether an expression calls a provider anywhere. -/
def callsProvider (rules : OptionsRules) (e : Expression) : Bool :=
  e.functions.any fun name =>
    (rules.registry.find? name).any fun d => d.handler = .external

mutual

/-- The value of an expression that may call providers. -/
def walk (rules : OptionsRules) (c : Context) : Expression → Traced Value
  | .literal v => .ofExcept (c.evaluate (.literal v))
  | .var name => .ofExcept (c.evaluate (.var name))
  | .call function arguments =>
    if rules.callsProvider (.call function arguments) then do
      let d ← .ofExcept (c.resolve function arguments.length)
      if d.name = "IF" then rules.walkSelection c arguments
      else if d.name = "AND" then rules.walkUntil c d.name false 0 arguments
      else if d.name = "OR" then rules.walkUntil c d.name true 0 arguments
      else
        let values ← rules.walkAll c arguments
        if d.handler = .external then
          return .optionList (← rules.providers.options d.name values)
        else .ofExcept (c.apply d values)
    else .ofExcept (c.evaluate (.call function arguments))

/-- The values of expressions from left to right. -/
def walkAll (rules : OptionsRules) (c : Context) : List Expression → Traced (List Value)
  | [] => return []
  | e :: rest => do
    let v ← rules.walk c e
    return v :: (← rules.walkAll c rest)

/-- Whether one of the conditions from a position on comes out as `stop`; the first that does ends the
search, and if none does the answer is the opposite. -/
def walkUntil (rules : OptionsRules) (c : Context) (function : String) (stop : Bool)
    (position : Nat) : List Expression → Traced Value
  | [] => return .boolean !stop
  | e :: rest => do
    let v ← rules.walk c e
    let b ← .ofExcept (v.condition function position)
    if b = stop then return .boolean stop
    else rules.walkUntil c function stop (position + 1) rest

/-- The value of the branch that a condition selects. Of fewer than two arguments only another function can be
called, one that has been registered as `IF`. The program then stops where it looks for what is not there; the
fault of arity stands for that here, and is told by no message of the program. -/
def walkSelection (rules : OptionsRules) (c : Context) : List Expression → Traced Value
  | [] => .ofExcept (.error (.arityMismatch "IF" "2 to 3" 0))
  | [condition] => do
    let v ← rules.walk c condition
    if ← .ofExcept (v.condition "IF" 0) then .ofExcept (.error (.arityMismatch "IF" "2 to 3" 1))
    else return .null
  | condition :: chosen :: others => do
    let v ← rules.walk c condition
    if ← .ofExcept (v.condition "IF" 0) then rules.walk c chosen else rules.walkFirst c others

/-- The value of the first expression, or null if there is none. -/
def walkFirst (rules : OptionsRules) (c : Context) : List Expression → Traced Value
  | [] => return .null
  | e :: _ => rules.walk c e

end

/-- The options that an expression yields, without looking at the cache. -/
def options (rules : OptionsRules) (e : Expression) (data : FormData) : Traced (List OptionItem) := do
  let v ← rules.walk (rules.context data) e
  let options ← .ofExcept (OptionList.ofValue v)
  if rules.maxOptions < options.length then
    .ofExcept (.error (.optionLimitExceeded options.length rules.maxOptions))
  else return options

/-- The options that an expression yields, by way of the cache. -/
def resolve (rules : OptionsRules) (cache : OptionsCache) (text : String) (data : FormData) :
    Traced (List OptionItem) × OptionsCache :=
  match Expression.ofText rules.limits text with
  | .error fault => (.ofExcept (.error fault), cache)
  | .ok e =>
    if rules.registry.isVolatile e then (rules.options e data, cache)
    else
      let key := CacheKey.ofExpression text e data
      match cache.get key with
      | (some options, cache) => (pure options, cache)
      | (none, cache) =>
        let resolved := rules.options e data
        match resolved.outcome with
        | .ok options => (resolved, cache.insert key options)
        | .error _ => (resolved, cache)

/-- The context in which a filter looks at an option: `option` is its value, and `option.value` and
`option.label` are its parts. -/
def optionContext (rules : OptionsRules) (data : FormData) (item : OptionItem) : Context :=
  (((rules.context data).bind "option" (.string item.value)).bind "option.value"
    (.string item.value)).bind "option.label" (.string item.label)

/-- Whether a filter lets an option pass. A filter that fails does not. -/
def passes (rules : OptionsRules) (filter : Expression) (data : FormData) (item : OptionItem) : Bool :=
  match (rules.optionContext data item).evaluate filter >>= Value.condition "FILTER" 0 with
  | .ok b => b
  | .error _ => false

/-- The options that a filter lets pass. A blank filter lets all pass, and of no options none pass. -/
def filter (rules : OptionsRules) (options? : Option (List OptionItem)) (text : String)
    (data : FormData) : Except Fault (List OptionItem) :=
  match options? with
  | none => .ok []
  | some options =>
    if Text.isAllBlank text.toList then .ok options
    else do
      let filter ← Expression.ofText rules.limits text
      return options.filter (rules.passes filter data)

end OptionsRules

end Formulary
