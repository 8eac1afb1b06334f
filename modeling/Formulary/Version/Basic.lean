import Formulary.Calendar.DateTime
import Formulary.NameMap

/-!
# Versions of formulas

A formula is never edited in place: each change makes a new version, and a `FormulaHistory` keeps all
versions of one formula in ascending order of their numbers. A version takes effect once it is
published, and only within its window, whose ends belong to it.

`FormulaHistory.add` refuses a version of another formula and a number that is taken.
-/

namespace Formulary

/-- A version of a formula. -/
structure FormulaVersion where
  /-- The name of the formula. -/
  formula : String
  /-- The number of the version. -/
  number : Nat
  /-- The expression. -/
  expression : String
  /-- When it was published; a draft is not. -/
  publishedAt : Option DateTime
  /-- The first moment of its window. -/
  effectiveFrom : Option DateTime
  /-- The last moment of its window. -/
  effectiveTo : Option DateTime
deriving DecidableEq, Repr

namespace FormulaVersion

/-- Whether the version has been published. -/
def isPublished (v : FormulaVersion) : Bool := v.publishedAt.isSome

/-- Whether a moment lies in the window of the version. -/
def isEffectiveAt (v : FormulaVersion) (now : DateTime) : Bool :=
  (v.effectiveFrom.all fun start => (start.compare now).isLE) &&
    v.effectiveTo.all fun last => (now.compare last).isLE

/-- Whether the version is published and the moment lies in its window. -/
def isEvaluableAt (v : FormulaVersion) (now : DateTime) : Bool :=
  v.isPublished && v.isEffectiveAt now

end FormulaVersion

/-- The versions of a formula. -/
structure FormulaHistory where
  /-- The name of the formula. -/
  name : String
  /-- Its versions, in ascending order of their numbers. -/
  versions : List FormulaVersion
  /-- All are versions of this formula. -/
  named : ∀ v ∈ versions, v.formula = name
  /-- The numbers ascend. -/
  ascending : versions.Pairwise fun a b => a.number < b.number
deriving DecidableEq

/-- Why a version cannot be added to a history. -/
inductive HistoryFault where
  /-- It is a version of another formula. -/
  | foreignVersion (expected actual : String)
  /-- Its number is taken. -/
  | duplicateVersion (formula : String) (number : Nat)
deriving DecidableEq, Repr

/-- What is said about a version that cannot be added. -/
def HistoryFault.message : HistoryFault → String
  | foreignVersion expected actual => s!"Version belongs to formula '{actual}', not '{expected}'"
  | duplicateVersion formula number => s!"Formula '{formula}' already has version {number}"

namespace FormulaHistory

/-- The history of a formula that has no versions yet. -/
def empty (name : String) : FormulaHistory := ⟨name, [], by simp, List.Pairwise.nil⟩

/-- Puts a version in front of the first one with a greater number. -/
def insertVersion (v : FormulaVersion) : List FormulaVersion → List FormulaVersion
  | [] => [v]
  | first :: rest =>
    if v.number < first.number then v :: first :: rest else first :: insertVersion v rest

theorem mem_insertVersion {v w : FormulaVersion} {versions : List FormulaVersion} :
    w ∈ insertVersion v versions ↔ w = v ∨ w ∈ versions := by
  induction versions with
  | nil => simp [insertVersion]
  | cons first rest ih =>
    rw [insertVersion]
    split <;> simp [ih, or_left_comm]

theorem pairwise_insertVersion {v : FormulaVersion} {versions : List FormulaVersion}
    (fresh : ∀ w ∈ versions, w.number ≠ v.number)
    (h : versions.Pairwise fun a b => a.number < b.number) :
    (insertVersion v versions).Pairwise fun a b => a.number < b.number := by
  induction versions with
  | nil => exact List.pairwise_singleton _ _
  | cons first rest ih =>
    obtain ⟨above, tail⟩ := List.pairwise_cons.mp h
    have differs := fresh first List.mem_cons_self
    rw [insertVersion]
    split
    · next below =>
      refine List.pairwise_cons.mpr ⟨fun w member => ?_, h⟩
      rcases List.mem_cons.mp member with rfl | member
      · exact below
      · exact Nat.lt_trans below (above w member)
    · refine List.pairwise_cons.mpr
        ⟨fun w member => ?_, ih (fun w member => fresh w (List.mem_cons_of_mem _ member)) tail⟩
      rcases mem_insertVersion.mp member with rfl | member
      · omega
      · exact above w member

/-- Adds a version. -/
def add (h : FormulaHistory) (v : FormulaVersion) : Except HistoryFault FormulaHistory :=
  if foreign : v.formula ≠ h.name then .error (.foreignVersion h.name v.formula)
  else if taken : ∃ w ∈ h.versions, w.number = v.number then
    .error (.duplicateVersion h.name v.number)
  else
    .ok
      { h with
        versions := insertVersion v h.versions
        named := fun w member =>
          (mem_insertVersion.mp member).elim (fun e => e ▸ Decidable.not_not.mp foreign) (h.named w)
        ascending := pairwise_insertVersion (fun w member e => taken ⟨w, member, e⟩) h.ascending }

/-- The version with a number. -/
def version? (h : FormulaHistory) (number : Nat) : Option FormulaVersion :=
  h.versions.find? fun v => v.number = number

/-- The highest version in force at a moment. -/
def latestAt? (h : FormulaHistory) (now : DateTime) : Option FormulaVersion :=
  h.versions.reverse.find? fun v => v.isEvaluableAt now

end FormulaHistory

/-- The histories of formulas by name. -/
abbrev FormulaSource := NameMap FormulaHistory

/-- Adds a version to the history of its formula. -/
def FormulaSource.add (source : FormulaSource) (v : FormulaVersion) :
    Except HistoryFault FormulaSource := do
  let history ← ((source.get? v.formula).getD (.empty v.formula)).add v
  return source.insert v.formula history

end Formulary
