import Formulary.Proofs.Evaluation.Faults
import Formulary.Proofs.Expression.Faults

/-!
# Faults of authors and faults of evaluation

A fault tells which of two things went wrong. If a text is no expression, then its structure is at fault or
a forbidden token in it; evaluating an expression, whatever it is and in whatever context, never finds fault
with the text that it came from, nor with the fields of a form (`Context.evaluate_notAuthoring`). So the
fault that the evaluation of a text ends with tells whether the text could be read
(`Context.fault_taxonomy`).
-/

namespace Formulary

theorem Fault.isAuthoring_eq_false_iff {fault : Fault} :
    fault.isAuthoring = false ↔ ¬fault.IsOfText ∧ (∀ name, fault ≠ .duplicateField name) ∧
      ∀ path, fault ≠ .cycleDetected path := by
  cases fault <;> simp [isAuthoring, IsOfText, isSyntax]

namespace Context

variable {c : Context}

/-- The outcome is no fault of an author. -/
abbrev NotAuthoring {α : Type} (outcome : Except Fault α) : Prop :=
  FailsWith (fun fault => fault.isAuthoring = false) outcome

theorem lookup_notAuthoring (name : String) : NotAuthoring (c.lookup name) := by
  rw [lookup]
  split
  · exact .ok _
  · exact .error rfl

theorem resolve_notAuthoring (function : String) (count : Nat) :
    NotAuthoring (c.resolve function count) := by
  have hlookup : NotAuthoring (c.registry.lookup function) := by
    rw [Registry.lookup]
    split
    · exact .ok _
    · exact .error rfl
  have harity (d : Definition) : NotAuthoring (d.checkArity count) := .ite (.ok _) (.error rfl)
  exact hlookup.bind fun d _ => (harity d).bind fun _ _ => .ite (.error rfl) (.ok _)

/-- **Evaluation never ends with a fault of an author.** -/
theorem evaluate_notAuthoring (e : Expression) : NotAuthoring (c.evaluate e) :=
  evaluate_failsWith ⟨fun _ => Fault.isAuthoring_of_isStatic, fun _ _ _ _ _ _ _ _ _ _ => rfl⟩ e
    (fun name _ => lookup_notAuthoring name) fun call _ => resolve_notAuthoring call.1 call.2

/-- **The kinds of faults keep apart.** A text that cannot be read has a fault of a text. No expression has
one in its evaluation, in any context, nor a fault of the fields of a form. If the evaluation of a text
fails, it therefore has a fault of a text exactly if the text cannot be read. -/
theorem fault_taxonomy (c : Context) (limits : Limits) :
    (∀ text fault, Expression.ofText limits text = .error fault → fault.IsOfText) ∧
      (∀ e fault, c.evaluate e = .error fault →
        ¬fault.IsOfText ∧ (∀ name, fault ≠ .duplicateField name) ∧
          ∀ path, fault ≠ .cycleDetected path) ∧
      ∀ text fault, c.evaluateText limits text = .error fault →
        (fault.IsOfText ↔ ∃ cause, Expression.ofText limits text = .error cause) := by
  refine ⟨fun text => Expression.ofText_failsWith limits text, fun e fault h => ?_, ?_⟩
  · exact Fault.isAuthoring_eq_false_iff.mp (evaluate_notAuthoring e fault h)
  · intro text fault h
    rw [evaluateText] at h
    cases hread : Expression.ofText limits text with
    | error cause =>
      rw [hread] at h
      -- the text is refused, so the fault is its own
      obtain rfl : cause = fault := Except.error.inj h
      exact ⟨fun _ => ⟨cause, rfl⟩, fun _ => Expression.ofText_failsWith limits text cause hread⟩
    | ok e =>
      rw [hread, ok_bind] at h
      -- the text is read, and an evaluation has no fault of the text
      obtain ⟨hnot, -⟩ := Fault.isAuthoring_eq_false_iff.mp (evaluate_notAuthoring e fault h)
      exact ⟨fun htext => absurd htext hnot, fun ⟨_, hrefused⟩ => nomatch hrefused⟩

/-- A context in which no name stands for anything. -/
def bare : Context := { data := .empty, now := .origin }

/-- A blank text cannot be read; a lone name can, but stands for nothing. -/
theorem fault_taxonomy_bare :
    Expression.ofText {} "" = .error .emptyExpression ∧ Fault.emptyExpression.IsOfText ∧
      bare.evaluate (.var "total") = .error (.unknownVariable "total") ∧
      ¬(Fault.unknownVariable "total").IsOfText ∧
      bare.evaluateText {} "" = .error .emptyExpression ∧
      (Fault.emptyExpression.IsOfText ↔ ∃ cause, Expression.ofText {} "" = .error cause) := by
  have hblank : Expression.ofText {} "" = .error .emptyExpression := rfl
  have hunknown : bare.evaluate (.var "total") = .error (.unknownVariable "total") := rfl
  have hfails : bare.evaluateText {} "" = .error .emptyExpression := rfl
  obtain ⟨hread, hevaluate, htext⟩ := fault_taxonomy bare {}
  exact ⟨hblank, hread "" _ hblank, hunknown, (hevaluate _ _ hunknown).1, hfails,
    htext "" _ hfails⟩

end Context

end Formulary
