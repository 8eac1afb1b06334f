import Formulary.Version.Basic

/-!
# Choosing a version

`FormulaHistory.select` gives the version to evaluate at a moment: the one asked for by number, or
else the highest one in force. Where there is none, the fault names the version that came nearest.
-/

namespace Formulary

/-- Why there is no version to evaluate. -/
inductive SelectionFault where
  /-- There is no formula of that name. -/
  | unknownFormula (name : String)
  /-- The formula has no version of that number. -/
  | unknownVersion (name : String) (number : Nat)
  /-- The version is a draft. -/
  | notPublished (formula : String) (number : Nat)
  /-- The moment lies outside the window of the version. -/
  | notEffective (formula : String) (number : Nat)
deriving DecidableEq, Repr

/-- What is said when there is no version to evaluate. -/
def SelectionFault.message : SelectionFault → String
  | unknownFormula name => s!"Formula not found: {name}"
  | unknownVersion name number => s!"Formula not found: {name} version {number}"
  | notPublished formula number => s!"Formula {formula} version {number} is not published"
  | notEffective formula number => s!"Formula {formula} version {number} is not effective"

namespace FormulaHistory

/-- The version with that number, if it is in force. -/
def selectPinned (h : FormulaHistory) (number : Nat) (now : DateTime) :
    Except SelectionFault FormulaVersion :=
  match h.version? number with
  | none => .error (.unknownVersion h.name number)
  | some v =>
    if !v.isPublished then .error (.notPublished v.formula v.number)
    else if !v.isEffectiveAt now then .error (.notEffective v.formula v.number)
    else .ok v

/-- The highest version in force. -/
def selectLatest (h : FormulaHistory) (now : DateTime) : Except SelectionFault FormulaVersion :=
  match h.latestAt? now with
  | some v => .ok v
  | none =>
    match h.versions.reverse.find? FormulaVersion.isPublished with
    | some v => .error (.notEffective v.formula v.number)
    | none =>
      match h.versions.getLast? with
      | some v => .error (.notPublished v.formula v.number)
      | none => .error (.unknownFormula h.name)

/-- The version to evaluate at a moment. -/
def select (h : FormulaHistory) (pinned : Option Nat) (now : DateTime) :
    Except SelectionFault FormulaVersion :=
  match pinned with
  | some number => h.selectPinned number now
  | none => h.selectLatest now

end FormulaHistory

end Formulary
