import Formulary.Evaluation
import Formulary.Field.Basic

/-!
# Reviewing expressions and rules

`Report.ofText` checks a text without evaluating it and collects what is wrong; `checkPublishable` lets
pass what can be read and calls only functions that there are, with as many arguments as they take.

`activeRules` and `crossFieldViolations` apply the rules of fields to form data. A condition that fails
does not hold.
-/

namespace Formulary

/-- What is wrong with a text. -/
structure Report where
  /-- The faults found. -/
  faults : List Fault
  /-- The forbidden tokens found. -/
  securityIssues : List String
deriving DecidableEq, Repr

namespace Report

/-- Whether nothing is wrong. -/
def isValid (r : Report) : Bool := r.faults.isEmpty

/-- What is said about the faults. -/
def messages (r : Report) : List String := r.faults.map Fault.message

/-- The fault of an outcome, if it is one. -/
def faultOf {α : Type} : Except Fault α → List Fault
  | .ok _ => []
  | .error fault => [fault]

/-- The variables of an expression that are not among the known names. -/
def unknownVariables (known? : Option (List String)) (e : Expression) : List Fault :=
  match known? with
  | none => []
  | some known => (e.variableNames.filter fun name => name ∉ known).map .unknownVariable

/-- What is wrong with a text as an expression. Its structure is looked at only if no forbidden token
and no lone parenthesis was found. -/
def ofText (limits : Limits) (registry : Registry) (known? : Option (List String)) (text : String) :
    Report :=
  if Text.isAllBlank text.toList then ⟨[.emptyExpression], []⟩
  else
    let tokens := (Screen.forbiddenToken? text.toList).toList.map String.ofList
    let outer := tokens.map .unsafeExpression ++ faultOf (Screen.checkParentheses text.toList)
    if outer.isEmpty then
      match Expression.ofText limits text with
      | .ok e => ⟨registry.checkCalls e ++ unknownVariables known? e, tokens⟩
      | .error fault => ⟨[fault], tokens⟩
    else ⟨outer, tokens⟩

end Report

/-- Checks that an expression can be read and calls only functions that there are, with as many
arguments as they take. -/
def checkPublishable (limits : Limits) (registry : Registry) (text : String) : Except Fault Unit := do
  let e ← Expression.ofText limits text
  match registry.checkCalls e with
  | fault :: _ => throw fault
  | [] => return ()

/-- The rules of a field that apply because their condition holds. -/
def Field.activeRules (f : Field) (c : Context) (limits : Limits) : List ValidationRule :=
  match f.conditional with
  | some conditional => if c.holds limits conditional.condition then conditional.rules else []
  | none => []

/-- A rule across fields that does not hold. -/
structure Violation where
  /-- The field that has the rule. -/
  field : String
  /-- The rule. -/
  rule : CrossFieldRule
deriving DecidableEq, Repr

/-- The rules across fields that do not hold. -/
def crossFieldViolations (fields : List Field) (c : Context) (limits : Limits) : List Violation :=
  fields.filterMap fun f =>
    match f.crossField with
    | some rule => if c.holds limits rule.expression then none else some ⟨f.name, rule⟩
    | none => none

end Formulary
