import Formulary.Engine
import Formulary.Proofs.Expression.Faults

/-!
# Review and publishing

Before a text is published it has to pass `Engine.checkPublishable`, which stops at the first thing wrong
with it. `Engine.review` is what an author sees before that, and collects what is wrong. Both make the same
checks in different orders, and the review leaves some out if others have failed.

They agree on which texts are right, and what keeps a text from being published is among the faults that
the review has found, with one exception: the length of a text is checked in review only when the text is
read as an expression, and it is not read if a forbidden token or a lone parenthesis has been found in it
(`Engine.OverlooksLength`). `Engine.review_agrees` says this for all texts.
-/

namespace Formulary

namespace Report

variable {limits : Limits} {registry : Registry} {text : String}

/-- What review finds in a text before it reads it as an expression. -/
def screened (text : List Char) : List Fault :=
  ((Screen.forbiddenToken? text).toList.map String.ofList).map .unsafeExpression ++
    faultOf (Screen.checkParentheses text)

theorem screened_eq_nil_iff {text : List Char} :
    screened text = [] ↔ Screen.checkParentheses text = .ok () ∧ Screen.isSafe text = true := by
  have hsafe : Screen.isSafe text = true ↔ Screen.forbiddenToken? text = none := by
    rw [Screen.isSafe, Option.isNone_iff_eq_none]
  rw [hsafe, screened, List.append_eq_nil_iff, and_comm]
  refine and_congr ?_ ?_
  · cases Screen.checkParentheses text with
    | error fault => simp [faultOf]
    | ok _ => simp [faultOf]
  · cases Screen.forbiddenToken? text with
    | none => simp
    | some token => simp

theorem mem_screened_iff {text : List Char} {fault : Fault} :
    fault ∈ screened text ↔ Screen.checkParentheses text = .error fault ∨
      ∃ token, Screen.forbiddenToken? text = some token ∧
        fault = .unsafeExpression (String.ofList token) := by
  rw [screened, List.mem_append, or_comm]
  refine or_congr ?_ ?_
  · cases Screen.checkParentheses text with
    | error other => simp [faultOf, eq_comm]
    | ok _ => simp [faultOf]
  · cases Screen.forbiddenToken? text with
    | none => simp
    | some token => simp

/-- A text that is found to be blank, and one that is found fault with by the screen, are not read. -/
theorem faults_of_isAllBlank (h : Text.isAllBlank text.toList = true) (known? : Option (List String)) :
    (ofText limits registry known? text).faults = [.emptyExpression] := by
  rw [ofText, if_pos h]

theorem faults_of_screened (hblank : Text.isAllBlank text.toList = false)
    (h : screened text.toList ≠ []) (known? : Option (List String)) :
    (ofText limits registry known? text).faults = screened text.toList := by
  have houter : ¬(screened text.toList).isEmpty = true := by rwa [List.isEmpty_iff]
  rw [ofText, if_neg (by rw [hblank]; simp)]
  dsimp only
  exact congrArg faults (if_neg houter)

/-- Any other text is read. -/
theorem faults_of_screened_eq_nil (hblank : Text.isAllBlank text.toList = false)
    (h : screened text.toList = []) (known? : Option (List String)) :
    (ofText limits registry known? text).faults =
      match Expression.ofText limits text with
      | .ok e => registry.checkCalls e ++ unknownVariables known? e
      | .error fault => [fault] := by
  have houter : (screened text.toList).isEmpty = true := by rw [h]; rfl
  rw [ofText, if_neg (by rw [hblank]; simp)]
  dsimp only
  refine (congrArg faults (if_pos houter)).trans ?_
  cases Expression.ofText limits text <;> rfl

end Report

/-! ### The gate -/

namespace Engine

variable (e : Engine) (text : String)

/-- The text is too long, and review does not notice because it has found something else. -/
def OverlooksLength : Prop :=
  Text.isAllBlank text.toList = false ∧ e.limits.maxLength < text.toList.length ∧
    Report.screened text.toList ≠ []

/-- A text that cannot be read is not published. -/
theorem checkPublishable_of_error {fault : Fault} (h : Expression.ofText e.limits text = .error fault) :
    e.checkPublishable text = .error fault := by
  show (Expression.ofText e.limits text >>= _) = _
  rw [h]
  rfl

/-- A text that can be read is published if none of its calls is wrong; otherwise the first that is wrong
is reported. -/
theorem checkPublishable_of_ok {expression : Expression}
    (h : Expression.ofText e.limits text = .ok expression) :
    e.checkPublishable text = match e.registry.checkCalls expression with
      | fault :: _ => .error fault
      | [] => .ok () := by
  show (Expression.ofText e.limits text >>= _) = _
  rw [h]
  rfl

/-- A text that is found fault with before it is read is not published, because it is too long or for what
has been found. -/
theorem checkPublishable_of_screened (hblank : Text.isAllBlank text.toList = false)
    (hscreened : Report.screened text.toList ≠ []) :
    ∃ fault, e.checkPublishable text = .error fault ∧
      ((e.limits.maxLength < text.toList.length ∧
          fault = .expressionTooLong text.toList.length e.limits.maxLength) ∨
        (text.toList.length ≤ e.limits.maxLength ∧ fault ∈ Report.screened text.toList)) := by
  cases hcheck : Screen.check e.limits text.toList with
  | ok _ =>
    -- a text that the screen lets pass would not have been found fault with
    obtain ⟨-, -, hpassed⟩ := Screen.check_eq_ok_iff.mp hcheck
    exact absurd (Report.screened_eq_nil_iff.mpr hpassed) hscreened
  | error fault =>
    have hread : Expression.ofText e.limits text = .error fault := by
      rw [Expression.ofText, Expression.ofChars, hcheck]
      rfl
    refine ⟨fault, e.checkPublishable_of_error text hread, ?_⟩
    rcases Screen.check_eq_error hcheck with ⟨hblank', -⟩ | ⟨-, hlong | ⟨hlength, hfound⟩⟩
    · rw [hblank] at hblank'
      contradiction
    · exact Or.inl hlong
    · refine Or.inr ⟨hlength, Report.mem_screened_iff.mpr ?_⟩
      exact hfound.imp_right And.right

/-- The length of a text is nothing that the screen of review looks at. -/
theorem expressionTooLong_not_mem_screened (length limit : Nat) (text : List Char) :
    Fault.expressionTooLong length limit ∉ Report.screened text := by
  rw [Report.mem_screened_iff]
  rintro (hparentheses | ⟨_, -, htoken⟩)
  · rcases Screen.checkParentheses_failsWith text _ hparentheses with ⟨_, hfault⟩ | ⟨_, hfault⟩
    · contradiction
    · contradiction
  · contradiction

/-- Review and gate agree on a text, but for its length. -/
structure Agrees : Prop where
  /-- The text is right exactly if it may be published. -/
  isValid_iff : (e.review none text).isValid = true ↔ e.checkPublishable text = .ok ()
  /-- What keeps it from being published is among the faults, unless its length is overlooked. -/
  mem_faults_iff : ∀ fault, e.checkPublishable text = .error fault →
    (fault ∈ (e.review none text).faults ↔ ¬e.OverlooksLength text)

variable {e text}

/-- They agree on a text for which both report the same fault and nothing else. -/
theorem Agrees.of_singleton {fault : Fault} (hfaults : (e.review none text).faults = [fault])
    (hgate : e.checkPublishable text = .error fault) (hnot : ¬e.OverlooksLength text) :
    e.Agrees text where
  isValid_iff := by simp [Report.isValid, hfaults, hgate]
  mem_faults_iff := by
    intro other hother
    obtain rfl := Except.error.inj (hgate.symm.trans hother)
    rw [hfaults]
    exact iff_of_true List.mem_cons_self hnot

/-- They agree on a blank text. -/
theorem agrees_of_isAllBlank (hblank : Text.isAllBlank text.toList = true) : e.Agrees text := by
  have hread : Expression.ofText e.limits text = .error .emptyExpression := by
    rw [Expression.ofText, Expression.ofChars, Screen.check, if_pos hblank]
    rfl
  refine .of_singleton (Report.faults_of_isAllBlank hblank none) (e.checkPublishable_of_error text hread) ?_
  rintro ⟨hnot, -⟩
  rw [hblank] at hnot
  contradiction

/-- They agree on a text that both read as an expression. -/
theorem agrees_of_screened_eq_nil (hblank : Text.isAllBlank text.toList = false)
    (hscreened : Report.screened text.toList = []) : e.Agrees text := by
  have hnot : ¬e.OverlooksLength text := fun ⟨_, _, hfound⟩ => hfound hscreened
  have hfaults : (e.review none text).faults = _ :=
    Report.faults_of_screened_eq_nil hblank hscreened none
  cases hread : Expression.ofText e.limits text with
  | error fault =>
    rw [hread] at hfaults
    exact .of_singleton hfaults (e.checkPublishable_of_error text hread) hnot
  | ok expression =>
    have hgate := e.checkPublishable_of_ok text hread
    rw [hread] at hfaults
    replace hfaults : (e.review none text).faults = e.registry.checkCalls expression :=
      hfaults.trans (List.append_nil _)
    -- the gate reports the first wrong call, the review all of them
    cases hcalls : e.registry.checkCalls expression with
    | nil =>
      rw [hcalls] at hgate hfaults
      refine ⟨by simp [Report.isValid, hfaults, hgate], fun fault hfault => ?_⟩
      rw [hgate] at hfault
      contradiction
    | cons first others =>
      rw [hcalls] at hgate hfaults
      refine ⟨by simp [Report.isValid, hfaults, hgate], fun fault hfault => ?_⟩
      obtain rfl := Except.error.inj (hgate.symm.trans hfault)
      rw [hfaults]
      exact iff_of_true List.mem_cons_self hnot

/-- They agree, but for the length, on a text that review finds fault with before it is read. -/
theorem agrees_of_screened (hblank : Text.isAllBlank text.toList = false)
    (hscreened : Report.screened text.toList ≠ []) : e.Agrees text := by
  have hfaults : (e.review none text).faults = Report.screened text.toList :=
    Report.faults_of_screened hblank hscreened none
  obtain ⟨fault, hgate, hfault⟩ := e.checkPublishable_of_screened text hblank hscreened
  refine ⟨by simp [Report.isValid, hfaults, hgate, hscreened], fun other hother => ?_⟩
  obtain rfl := Except.error.inj (hgate.symm.trans hother)
  rw [hfaults]
  rcases hfault with ⟨hlong, rfl⟩ | ⟨hlength, hmem⟩
  · refine iff_of_false (expressionTooLong_not_mem_screened _ _ _) ?_
    exact fun hnot => hnot ⟨hblank, hlong, hscreened⟩
  · exact iff_of_true hmem fun ⟨_, hlong, _⟩ => Nat.not_le.mpr hlong hlength

/-- **Review and gate agree, but for the length of some texts.** A text is right exactly if it may be
published. If it may not, then the fault reported for that is among those that review finds, unless the
text is one whose length review overlooks, and then it is not. -/
theorem review_agrees (e : Engine) (text : String) : e.Agrees text := by
  by_cases hblank : Text.isAllBlank text.toList = true
  · exact agrees_of_isAllBlank hblank
  · have hblank : Text.isAllBlank text.toList = false := Bool.not_eq_true _ ▸ hblank
    by_cases hscreened : Report.screened text.toList = []
    · exact agrees_of_screened_eq_nil hblank hscreened
    · exact agrees_of_screened hblank hscreened

/-- An engine that allows only four characters. -/
def terse : Engine := { now := .origin, cache := .empty {} spread, limits := { maxLength := 4 } }

/-- `exec(1)` is not published because it is too long, and review finds only that it is forbidden. -/
theorem review_overlooks_length :
    terse.checkPublishable "exec(1)" = .error (.expressionTooLong 7 4) ∧
      (terse.review none "exec(1)").faults = [.unsafeExpression "exec"] ∧
      Fault.expressionTooLong 7 4 ∉ (terse.review none "exec(1)").faults := by
  have hread : Expression.ofText terse.limits "exec(1)" = .error (.expressionTooLong 7 4) := rfl
  have hscreened : Report.screened "exec(1)".toList = [.unsafeExpression "exec"] := by
    decide +kernel
  have hfaults : (terse.review none "exec(1)").faults = [.unsafeExpression "exec"] :=
    (Report.faults_of_screened rfl (by rw [hscreened]; simp) none).trans hscreened
  refine ⟨terse.checkPublishable_of_error _ hread, hfaults, ?_⟩
  rw [hfaults]
  simp

end Engine

end Formulary
