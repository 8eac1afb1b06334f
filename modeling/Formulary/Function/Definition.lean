import Formulary.Function.Handler

/-!
# Definitions of functions

A `Definition` says how a function may be called and what stands behind it. A `Signature` is the part
of it that is shown to those who write expressions.
-/

namespace Formulary

/-- The group that a function belongs to, in the order in which groups are shown. -/
inductive Category where
  | arithmetic
  | logical
  | comparison
  | text
  | date
  | null
  | options
deriving DecidableEq, Repr

/-- The name of a group. -/
def Category.name : Category → String
  | arithmetic => "arithmetic"
  | logical => "logical"
  | comparison => "comparison"
  | text => "text"
  | date => "date"
  | null => "null"
  | options => "options"

/-- The place of a group. -/
def Category.rank : Category → Nat
  | arithmetic => 0
  | logical => 1
  | comparison => 2
  | text => 3
  | date => 4
  | null => 5
  | options => 6

/-- The name of what a function wants or yields, in signatures. -/
def ArgumentKind.tag : ArgumentKind → String
  | only .dateTime => "date_time"
  | only .optionList => "option_list"
  | kind => kind.name

/-- A function that expressions can call. -/
structure Definition where
  /-- The name. -/
  name : String
  /-- The least number of arguments. -/
  least : Nat
  /-- The greatest number of arguments, if there is one. -/
  most : Option Nat
  /-- What is wanted at each position; the last counts for all further ones. -/
  kinds : List ArgumentKind
  /-- What the function yields. -/
  returns : ArgumentKind
  /-- The group it belongs to. -/
  category : Category
  /-- What it is for. -/
  description : String
  /-- What stands behind it. -/
  handler : Handler
  /-- Whether it may yield something else for the same arguments at another time. -/
  volatile : Bool := false
  /-- Whether it belongs into options expressions only. -/
  optionsOnly : Bool := false
deriving DecidableEq, Repr

/-- What is shown of a function. -/
structure Signature where
  /-- The name. -/
  name : String
  /-- The least number of arguments. -/
  least : Nat
  /-- The greatest number of arguments, if there is one. -/
  most : Option Nat
  /-- What is wanted at each position. -/
  kinds : List ArgumentKind
  /-- What the function yields. -/
  returns : ArgumentKind
  /-- The group it belongs to. -/
  category : Category
  /-- What it is for. -/
  description : String
  /-- Whether it may yield something else for the same arguments at another time. -/
  volatile : Bool
  /-- Whether it belongs into options expressions only. -/
  optionsOnly : Bool
deriving DecidableEq, Repr

namespace Definition

/-- What the function wants at a position. -/
def kindAt (d : Definition) (position : Nat) : ArgumentKind :=
  (d.kinds[position]?.or d.kinds.getLast?).getD .any

/-- The numbers of arguments that the function takes, in words. -/
def arity (d : Definition) : String :=
  match d.most with
  | some most => if most = d.least then toString most else s!"{d.least} to {most}"
  | none => s!"at least {d.least}"

/-- Whether the function takes that many arguments. -/
def Accepts (d : Definition) (count : Nat) : Prop :=
  d.least ≤ count ∧ ∀ most ∈ d.most, count ≤ most

instance (d : Definition) (count : Nat) : Decidable (d.Accepts count) :=
  inferInstanceAs (Decidable (_ ∧ _))

/-- Checks that the function takes that many arguments. -/
def checkArity (d : Definition) (count : Nat) : Except Fault Unit :=
  if d.Accepts count then .ok () else .error (.arityMismatch d.name d.arity count)

/-- The arguments of a call, each as what the function wants at its position, from a position on. -/
def coerceFrom (d : Definition) (position : Nat) : List Value → Except Fault (List Value)
  | [] => .ok []
  | v :: rest => do
    let first ← v.coerce d.name position (d.kindAt position)
    return first :: (← coerceFrom d (position + 1) rest)

/-- The arguments of a call, each as what the function wants at its position. -/
def coerceAll (d : Definition) (arguments : List Value) : Except Fault (List Value) :=
  d.coerceFrom 0 arguments

/-- What is shown of the function. -/
def signature (d : Definition) : Signature where
  name := d.name
  least := d.least
  most := d.most
  kinds := (List.range (max (d.most.getD d.kinds.length) d.least)).map d.kindAt
  returns := d.returns
  category := d.category
  description := d.description
  volatile := d.volatile
  optionsOnly := d.optionsOnly

end Definition

end Formulary
