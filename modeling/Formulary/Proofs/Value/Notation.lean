import Formulary.Evaluation
import Formulary.Proofs.Calendar.Notation
import Formulary.Proofs.Decimal.Rounding
import Formulary.Proofs.Evaluation.Resolution

/-!
# Values and their texts

A number and a truth value equal the text that they are written as, whatever the scale of the number and the
sign of a zero. A date-time is written to the second, and equals its text exactly if it has no fraction of a
second (`Value.equal_toText`). Inside an expression the text of a value is what `CONCAT` makes of it, and the
law is one about `EQUALS(e, CONCAT(e))`.
-/

namespace Formulary

namespace Decimal

theorem isBlank_of_mem_toChars (a : Decimal) : ∀ c ∈ a.toChars, Text.isBlank c = false := by
  obtain ⟨whole, places, hchars, hdigits, -⟩ := exists_toChars (a := a.abs) rfl
  have hblank : ∀ c ∈ whole ++ places, Text.isBlank c = false :=
    fun c hc => Lexeme.isBlank_of_isDigit (hdigits c hc)
  rw [List.forall_mem_append] at hblank
  rw [toChars_eq_abs, hchars, List.forall_mem_append, List.forall_mem_append]
  refine ⟨?_, hblank.1, ?_⟩
  · split
    · exact List.forall_mem_singleton.mpr (by decide)
    · simp
  · split
    · simp
    · exact List.forall_mem_cons.mpr ⟨by decide, hblank.2⟩

/-- **A decimal is the same number as its text.** -/
theorem exists_ofText?_toText (a : Decimal) : ∃ b, ofText? a.toText = some b ∧ a.Same b := by
  obtain ⟨b, hb⟩ := make?_isSome a.negative a.coefficient_lt a.scale_le
  refine ⟨b, ?_, ?_⟩
  · rw [ofText?, toText, String.toList_ofList, Text.trim_eq_self_of_forall a.isBlank_of_mem_toChars,
      ofNumeral?, ofChars?_toChars_eq, hb]
    rfl
  · rw [same_iff, toRat_make? hb, toRat_eq]

end Decimal

namespace Value

theorem readBool?_boolText (b : Bool) : readBool? (boolText b) = some b := by
  cases b <;> decide

/-- The value has no fraction of a second. -/
def OnSecond (v : Value) : Prop := ∀ d, v = .dateTime d → d.time.subsecond = 0

/-- The value is of a kind that has a text of its own. -/
def HasOwnText (v : Value) : Prop := v.kind = .number ∨ v.kind = .boolean ∨ v.kind = .dateTime

theorem onSecond_dateTime_iff {d : DateTime} : OnSecond (.dateTime d) ↔ d.time.subsecond = 0 :=
  ⟨fun h => h d rfl, fun h _ heq => (dateTime.inj heq) ▸ h⟩

/-- **A value equals its own text** exactly if it has no fraction of a second. -/
theorem equal_toText {v : Value} (hv : v.HasOwnText) :
    (v.equal (.string v.toText) = true ↔ v.OnSecond) ∧
      ((string v.toText).equal v = true ↔ v.OnSecond) := by
  cases v with
  | number a =>
    -- a number has no fraction of a second, and its text is read as the same number
    obtain ⟨b, hb, hsame⟩ := a.exists_ofText?_toText
    have hon : OnSecond (.number a) := fun _ h => nomatch h
    have hequal : (number a).equal (.string a.toText) = true := by
      rw [equal, hb, Option.any_some]
      exact decide_eq_true hsame
    have hequal' : (string a.toText).equal (.number a) = true := by
      rw [equal, hb, Option.any_some]
      exact decide_eq_true hsame.symm
    exact ⟨iff_of_true hequal hon, iff_of_true hequal' hon⟩
  | boolean b =>
    have hon : OnSecond (.boolean b) := fun _ h => nomatch h
    have hread := decide_eq_true (readBool?_boolText b)
    exact ⟨iff_of_true hread hon, iff_of_true hread hon⟩
  | dateTime d =>
    -- the text of a date-time is read as its full second
    have hread : decide (DateTime.ofText? d.toText = some d) = true ↔ OnSecond (.dateTime d) := by
      rw [decide_eq_true_iff, DateTime.ofText?_toText, Option.some.injEq,
        DateTime.wholeSecond_eq_self_iff, onSecond_dateTime_iff]
    exact ⟨hread, hread⟩
  | string _ => exact absurd hv (by simp [HasOwnText, kind])
  | optionList _ => exact absurd hv (by simp [HasOwnText, kind])
  | null => exact absurd hv (by simp [HasOwnText, kind])

/-- The text that a function gets which wants one. -/
theorem coerceTo_toText {v : Value} (hv : v.HasOwnText) (function : String) (position : Nat) :
    v.coerceTo function position .string = .ok (.string v.toText) := by
  cases v with
  | optionList _ => exact absurd hv (by simp [HasOwnText, kind])
  | _ => rfl

end Value

namespace Context

variable {c : Context} {e : Expression} {v : Value}

/-- The text of a value as an expression. -/
theorem evaluate_concat (hc : c.registry = .builtin) (he : c.evaluate e = .ok v) (hv : v.HasOwnText) :
    c.evaluate (.call "CONCAT" [e]) = .ok (.string v.toText) := by
  have hcoerce : Builtin.text[0].coerceAll [v] = .ok [.string v.toText] := by
    change (v.coerceTo "CONCAT" 0 .string >>= _) = _
    rw [Value.coerceTo_toText hv]
    rfl
  have haccepts : Builtin.text[0].Accepts [e].length := show Builtin.text[0].Accepts 1 by decide
  refine (evaluate_builtin hc (d := Builtin.text[0]) (by decide) rfl rfl haccepts).trans ?_
  rw [evaluateAll_one he, ok_bind, hcoerce, ok_bind]
  change Except.ok (Value.string (String.join [v.toText])) = _
  rw [String.join, List.foldl_cons, List.foldl_nil, String.empty_append]

/-- A comparison of two expressions. -/
theorem evaluate_equals (hc : c.registry = .builtin) {e' : Expression} {w : Value}
    (he : c.evaluate e = .ok v) (he' : c.evaluate e' = .ok w) :
    c.evaluate (.call "EQUALS" [e, e']) = .ok (.boolean (v.equal w)) :=
  evaluate_test hc (d := Builtin.comparison[0]) (by decide) rfl he he'

end Context

/-- **A value equals its own text**, the text that it is shown as and that a function gets which wants one,
exactly if it has no fraction of a second: numbers and truth values always, of date-times those on a full
second. It is so in either order, and so for expressions: `EQUALS(e, CONCAT(e))` holds exactly then. -/
theorem Value.equal_own_text_iff {v : Value} (hv : v.HasOwnText) :
    (∀ function position, v.coerceTo function position .string = .ok (.string v.toText)) ∧
    (v.equal (.string v.toText) = true ↔ v.OnSecond) ∧
    ((string v.toText).equal v = true ↔ v.OnSecond) ∧
    ∀ (c : Context) (e : Expression), c.registry = .builtin → c.evaluate e = .ok v →
      (c.evaluate (.call "EQUALS" [e, .call "CONCAT" [e]]) = .ok (.boolean true) ↔ v.OnSecond) := by
  obtain ⟨hequal, hequal'⟩ := equal_toText hv
  refine ⟨coerceTo_toText hv, hequal, hequal', fun c e hc he => ?_⟩
  rw [Context.evaluate_equals hc he (Context.evaluate_concat hc he hv), Except.ok.injEq, boolean.injEq,
    hequal]

/-- A zero with a minus. -/
def Value.minusZero : Value := .number (-.zero)

/-- A date-time a quarter of a second after noon. -/
def Value.afterNoon : Value :=
  .dateTime ⟨⟨739221, by decide, by decide⟩, ⟨43200, 250000000, by decide, by decide, by decide⟩⟩

/-- A zero with a minus equals its text as an expression. -/
theorem Value.equal_own_text_minusZero :
    Context.evaluate { data := .empty, now := .origin }
      (.call "EQUALS" [.literal minusZero, .call "CONCAT" [.literal minusZero]]) = .ok (.boolean true) :=
  ((equal_own_text_iff (v := minusZero) (.inl rfl)).2.2.2 _ (.literal minusZero) rfl
    (Context.evaluate.eq_1 _ _)).mpr fun _ h => nomatch h

/-- A date-time with a fraction of a second does not equal its text, nor does it as an expression. -/
theorem Value.afterNoon_ne_text : afterNoon.toText = "2024-01-31T12:00:00" ∧
    afterNoon.equal (.string afterNoon.toText) = false ∧
    (string afterNoon.toText).equal afterNoon = false ∧
    Context.evaluate { data := .empty, now := .origin }
      (.call "EQUALS" [.literal afterNoon, .call "CONCAT" [.literal afterNoon]]) =
        .ok (.boolean false) := by
  have hdiffers : afterNoon.equal (.string afterNoon.toText) = false := rfl
  refine ⟨rfl, hdiffers, rfl, ?_⟩
  have hliteral (c : Context) : c.evaluate (.literal afterNoon) = .ok afterNoon := by
    rw [Context.evaluate]
  rw [Context.evaluate_equals rfl (hliteral _) (Context.evaluate_concat rfl (hliteral _) (.inr (.inr rfl))),
    hdiffers]

end Formulary
