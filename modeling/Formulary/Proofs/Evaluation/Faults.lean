import Formulary.Proofs.Evaluation.Resolution
import Formulary.Proofs.Function.Outcomes

/-!
# What can go wrong with values

Some faults are found by looking at the text of an expression, at the functions that it calls and at the
names that it mentions: the `isStatic` ones. What functions make of values is never at fault in this way
(`Eager.apply_onlyByData`, `Value.coerce_ends`): they fail, if they fail, because a value is of another
kind than wanted, cannot be used, or leads to a result that is too large.

A function that looks at its arguments one by one passes on the faults of these, and may itself find that
there are too many or too few of them (`Lazy.apply_failsWith`). By induction, what an expression can fail
with is known if it is known of looking up its names and resolving its calls: `Context.evaluate_failsWith`
says so for any kind of fault that includes those of values (`Context.Covers`).
-/

namespace Formulary

/-- Whether a fault is one of an author: of the text of an expression, or of the fields of a form. -/
def Fault.isAuthoring : Fault → Bool
  | unsafeExpression _ => true
  | duplicateField _ => true
  | cycleDetected _ => true
  | fault => fault.isSyntax

/-- Whether a fault is one of an author, of the functions called, or of the names mentioned. -/
def Fault.isStatic : Fault → Bool
  | unsafeExpression _ => true
  | duplicateField _ => true
  | cycleDetected _ => true
  | unknownFunction _ => true
  | arityMismatch _ _ _ => true
  | unknownVariable _ => true
  | fault => fault.isSyntax

theorem Fault.isAuthoring_of_isStatic {fault : Fault} (h : fault.isStatic = false) :
    fault.isAuthoring = false := by
  cases fault <;> first | exact h | contradiction

/-- The outcome is no fault that could have been found without values. -/
abbrev OnlyByData {α : Type} (outcome : Except Fault α) : Prop :=
  FailsWith (fun fault => fault.isStatic = false) outcome

/-! ### Functions of values -/

theorem Fault.isStatic_of_isOfUse {fault : Fault} (h : fault.isOfUse = true) : fault.isStatic = false := by
  cases fault <;> first | rfl | contradiction

theorem Value.compare_onlyByData (function : String) (a b : Value) : OnlyByData (a.compare function b) := by
  rw [compare]
  split
  · exact .ok _
  · exact .error rfl

/-- No function of values finds fault with the text of the expression, its names or its functions. -/
theorem Eager.apply_onlyByData (f : Eager) (clock : DateTime) (arguments : List Value) :
    OnlyByData (f.apply clock arguments) := by
  have hcovers : f.Covers arguments fun fault => fault.isStatic = false := {
    use := fun _ => Fault.isStatic_of_isOfUse
    fixed := fun _ _ _ => Or.inr fun _ _ => rfl
    further := fun _ _ _ _ _ => Or.inr fun _ _ => rfl
    count := Or.inr fun _ _ _ => rfl
    order := fun _ function a b _ => Value.compare_onlyByData function a b }
  exact (apply_ends hcovers clock).fails

/-! ### Coercion -/

namespace OptionList

theorem ofDocument_onlyByData (document : Document) : OnlyByData (ofDocument document) := by
  fun_induction ofDocument document with
  | case1 items =>
    rw [ofItems]
    split
    · exact .ok _
    · exact .error rfl
  | case2 _ _ _ ih => exact ih
  | case3 => exact .error rfl
  | case4 => exact .ok _
  | case5 => exact .error rfl

theorem ofText_onlyByData (text : String) : OnlyByData (ofText text) := by
  rw [ofText]
  split
  · exact ofDocument_onlyByData _
  · exact .error rfl

end OptionList

namespace Value

/-- Coercion to a kind yields a value of that kind. -/
theorem coerceTo_ends (function : String) (position : Nat) (kind : ValueKind) (v : Value) :
    EndsIn (fun fault => fault.isStatic = false) kind (v.coerceTo function position kind) := by
  have hfailure (kind' : ValueKind) : EndsIn (fun fault => fault.isStatic = false) kind
      (.error (mismatch function position kind' v)) := .error rfl
  unfold coerceTo
  split
  all_goals first
    | exact .ok rfl
    | exact hfailure _
    | exact .elim (hfailure _) fun _ => rfl
    | exact .map (OptionList.ofText_onlyByData _) fun _ => rfl

/-- Coercion yields what is wanted. -/
theorem coerce_ends (function : String) (position : Nat) (kind : ArgumentKind) (v : Value) :
    Ends (fun fault => fault.isStatic = false) kind.Admits (v.coerce function position kind) := by
  cases kind with
  | any => exact .ok trivial
  | only kind => exact coerceTo_ends _ _ _ _

theorem condition_onlyByData (function : String) (position : Nat) (v : Value) :
    OnlyByData (v.condition function position) := by
  refine (coerceTo_ends _ _ _ _).fails.bind fun coerced _ => ?_
  split
  · exact .ok _
  · exact .error rfl

end Value

theorem Definition.coerceFrom_onlyByData (d : Definition) (position : Nat) (arguments : List Value) :
    OnlyByData (d.coerceFrom position arguments) := by
  induction arguments generalizing position with
  | nil => exact .ok _
  | cons v rest ih =>
    exact (Value.coerce_ends _ _ _ _).fails.bind fun _ _ => (ih _).bind fun _ _ => .ok _

/-! ### Functions that look at their arguments one by one -/

namespace Lazy

/-- Whether the function can do with that many arguments. -/
def Takes (count : Nat) : Lazy → Prop
  | .ifElse => 2 ≤ count
  | .and => True
  | .or => True
  | .isNull => count = 1

variable {P : Fault → Prop} (hdata : ∀ fault, fault.isStatic = false → P fault)
  {arguments : List Operand} (h : ∀ a ∈ arguments, FailsWith P a.outcome)
include hdata h

omit h in
/-- A condition fails with no other fault than its argument, or by the value of that. -/
theorem condition_failsWith {operand : Operand} (hoperand : FailsWith P operand.outcome)
    (function : String) (position : Nat) {α : Type} {next : Bool → Except Fault α}
    (hnext : ∀ b, FailsWith P (next b)) :
    FailsWith P (do next (← (← operand.outcome).condition function position)) :=
  hoperand.bind fun v _ =>
    ((Value.condition_onlyByData function position v).imp hdata).bind fun b _ => hnext b

theorem conjunction_failsWith (position : Nat) : FailsWith P (conjunction position arguments) := by
  induction arguments generalizing position with
  | nil => exact .ok _
  | cons operand rest ih =>
    obtain ⟨hoperand, hrest⟩ := List.forall_mem_cons.mp h
    exact condition_failsWith hdata hoperand _ _ fun b => .ite (ih hrest _) (.ok _)

theorem disjunction_failsWith (position : Nat) : FailsWith P (disjunction position arguments) := by
  induction arguments generalizing position with
  | nil => exact .ok _
  | cons operand rest ih =>
    obtain ⟨hoperand, hrest⟩ := List.forall_mem_cons.mp h
    exact condition_failsWith hdata hoperand _ _ fun b => .ite (.ok _) (ih hrest _)

/-- A selection fails with no other fault than its arguments if there are at least two of them. -/
theorem selection_failsWith (hcount : ¬2 ≤ arguments.length →
    ∀ function expected actual, P (.arityMismatch function expected actual)) :
    FailsWith P (selection arguments) := by
  match arguments with
  | [] => exact .error (hcount (by simp) _ _ _)
  | [_] => exact .error (hcount (by simp) _ _ _)
  | condition :: chosen :: others =>
    obtain ⟨hcondition, hchosen, hothers⟩ := by simpa only [List.forall_mem_cons] using h
    refine condition_failsWith hdata hcondition _ _ fun b => .ite hchosen ?_
    cases others with
    | nil => exact .ok _
    | cons other rest => exact hothers other List.mem_cons_self

omit hdata in
theorem nullity_failsWith (hcount : ¬arguments.length = 1 →
    ∀ function expected actual, P (.arityMismatch function expected actual)) :
    FailsWith P (nullity arguments) := by
  match arguments with
  | [] => exact .error (hcount (by simp) _ _ _)
  | _ :: _ :: _ => exact .error (hcount (by simp) _ _ _)
  | [operand] =>
    have hoperand := h operand List.mem_cons_self
    rw [nullity]
    split
    · exact .ok _
    · exact hoperand.map _

/-- With as many arguments as it can do with, such a function finds no other fault than its arguments. -/
theorem apply_failsWith (f : Lazy) (hcount : ¬f.Takes arguments.length →
    ∀ function expected actual, P (.arityMismatch function expected actual)) :
    FailsWith P (f.apply arguments) := by
  cases f with
  | ifElse => exact selection_failsWith hdata h hcount
  | and => exact (conjunction_failsWith hdata h 0).map _
  | or => exact (disjunction_failsWith hdata h 0).map _
  | isNull => exact (nullity_failsWith h hcount).map _

end Lazy

/-! ### Expressions -/

namespace Context

variable {c : Context}

theorem length_operands (es : List Expression) : (c.operands es).length = es.length := by
  induction es with
  | nil => rfl
  | cons e rest ih => exact congrArg Nat.succ ih

/-- The kind of fault includes what evaluation can fail with besides its names and calls: the faults of
values, and those of functions that take up their arguments themselves and cannot do with their number. -/
structure Covers (c : Context) (P : Fault → Prop) : Prop where
  /-- Faults of values are included. -/
  data : ∀ fault, fault.isStatic = false → P fault
  /-- If a function may be called with a number of arguments that it cannot do with, so is the fault for
  that. -/
  count : ∀ function count d f, c.resolve function count = .ok d → d.handler = .lazy f →
    ¬f.Takes count → ∀ name expected actual, P (.arityMismatch name expected actual)

variable {P : Fault → Prop}

mutual

/-- **An expression fails with no other fault than its names and calls, or by its values**: what kind of
fault that can be is known if it is known of looking up each name and resolving each call. -/
theorem evaluate_failsWith (hcovers : c.Covers P) :
    ∀ e : Expression, (∀ name ∈ e.mentions, FailsWith P (c.lookup name)) →
      (∀ call ∈ e.calls, FailsWith P (c.resolve call.1 call.2)) → FailsWith P (c.evaluate e)
  | .literal v, _, _ => .ok v
  | .var name, hnames, _ => hnames name (List.mem_singleton_self name)
  | .call function arguments, hnames, hcalls => by
    rw [Expression.calls, List.forall_mem_cons] at hcalls
    obtain ⟨hcall, harguments⟩ := hcalls
    rw [evaluate]
    refine hcall.bind fun d hd => ?_
    split
    · -- a function of values: first its arguments may fail, then their coercion, then the function
      refine (evaluateAll_failsWith hcovers arguments hnames harguments).bind fun vs _ => ?_
      refine ((d.coerceFrom_onlyByData 0 vs).imp hcovers.data).bind fun coerced _ => ?_
      exact (Eager.apply_onlyByData _ _ _).imp hcovers.data
    · next f hf =>
      -- each argument is handed over with what it fails with, whether it is taken up or not
      have hoperands := operands_failsWith hcovers arguments hnames harguments
      refine Lazy.apply_failsWith hcovers.data hoperands f ?_
      rw [length_operands]
      exact hcovers.count function arguments.length d f hd hf
    · exact .error (hcovers.data _ rfl)

theorem evaluateAll_failsWith (hcovers : c.Covers P) :
    ∀ es : List Expression, (∀ name ∈ Expression.mentionsOfAll es, FailsWith P (c.lookup name)) →
      (∀ call ∈ Expression.callsOfAll es, FailsWith P (c.resolve call.1 call.2)) →
      FailsWith P (c.evaluateAll es)
  | [], _, _ => .ok []
  | e :: rest, hnames, hcalls => by
    rw [Expression.mentionsOfAll, List.forall_mem_append] at hnames
    rw [Expression.callsOfAll, List.forall_mem_append] at hcalls
    rw [evaluateAll]
    refine (evaluate_failsWith hcovers e hnames.1 hcalls.1).bind fun v _ => ?_
    exact (evaluateAll_failsWith hcovers rest hnames.2 hcalls.2).bind fun vs _ => .ok _

theorem operands_failsWith (hcovers : c.Covers P) :
    ∀ es : List Expression, (∀ name ∈ Expression.mentionsOfAll es, FailsWith P (c.lookup name)) →
      (∀ call ∈ Expression.callsOfAll es, FailsWith P (c.resolve call.1 call.2)) →
      ∀ a ∈ c.operands es, FailsWith P a.outcome
  | [], _, _ => fun _ ha => nomatch ha
  | e :: rest, hnames, hcalls => by
    rw [Expression.mentionsOfAll, List.forall_mem_append] at hnames
    rw [Expression.callsOfAll, List.forall_mem_append] at hcalls
    refine List.forall_mem_cons.mpr ⟨evaluate_failsWith hcovers e hnames.1 hcalls.1, ?_⟩
    exact operands_failsWith hcovers rest hnames.2 hcalls.2

end

end Context

end Formulary
