import Formulary.Proofs.Expression.Grammar
import Formulary.Proofs.Value.Notation
import Formulary.Proofs.Value.Sameness

/-!
# Equality, order and coercion agree

Values are compared in three ways: they may be equal, they may come one before the other, and a text may be
read as a value of the kind that is wanted. Each is a table of pairs of kinds of its own. Here they are shown
to be one order.

* **Equality and order do not depend on the side.** Of two values either none comes before the other on either
  side, or both sides give opposite orders (`Value.compare?_swap`), and they are equal exactly if they are on
  one level (`Value.compare?_eq_iff_equal`).
* **A text takes part as what it is read as.** Comparing with a text is comparing with the value that coercion
  makes of it (`Value.equal_string`, `Value.compare?_string`).
* **Operators say the same.** Of `<`, `==` and `>` exactly one holds of two expressions whose values have an
  order, and the other three operators are the negations of these (`Value.comparison_coherent`).
-/

namespace Formulary

/-! ### Orders of numbers and of times -/

/-- Swapping two decimals leaves the number of places at which they are compared. -/
instance Decimal.orientedCmp_compare : Std.OrientedCmp Decimal.compare where
  eq_swap {a b} := by
    unfold Decimal.compare
    rw [Nat.max_comm b.scale a.scale]
    exact (Int.compare_swap _ _).symm

theorem Decimal.compare_eq_iff {a b : Decimal} : a.compare b = .eq ↔ a.Same b :=
  Int.compare_eq_eq

instance Date.orientedCmp_compare : Std.OrientedCmp Date.compare where
  eq_swap := (Int.compare_swap _ _).symm

instance Date.lawfulEqCmp_compare : Std.LawfulEqCmp Date.compare where
  compare_self := Int.compare_eq_eq.mpr rfl
  eq_of_compare {a b} h := by
    cases a
    cases b
    congr
    exact Int.compare_eq_eq.mp h

instance TimeOfDay.orientedCmp_compare : Std.OrientedCmp TimeOfDay.compare where
  eq_swap {a b} := by
    unfold TimeOfDay.compare
    rw [Ordering.swap_then, Nat.compare_swap, Nat.compare_swap]

instance TimeOfDay.lawfulEqCmp_compare : Std.LawfulEqCmp TimeOfDay.compare where
  compare_self := Ordering.then_eq_eq.mpr ⟨Nat.compare_eq_eq.mpr rfl, Nat.compare_eq_eq.mpr rfl⟩
  eq_of_compare {a b} h := by
    obtain ⟨hsecond, hnanosecond⟩ := Ordering.then_eq_eq.mp h
    cases a
    cases b
    congr
    · exact Nat.compare_eq_eq.mp hsecond
    · exact Nat.compare_eq_eq.mp hnanosecond

instance DateTime.orientedCmp_compare : Std.OrientedCmp DateTime.compare where
  eq_swap {a b} := by
    unfold DateTime.compare
    rw [Ordering.swap_then, ← Std.OrientedCmp.eq_swap, ← Std.OrientedCmp.eq_swap]

instance DateTime.lawfulEqCmp_compare : Std.LawfulEqCmp DateTime.compare where
  compare_self := Ordering.then_eq_eq.mpr ⟨Std.LawfulEqCmp.compare_eq_iff_eq.mpr rfl,
    Std.LawfulEqCmp.compare_eq_iff_eq.mpr rfl⟩
  eq_of_compare {a b} h := by
    obtain ⟨hdate, htime⟩ := Ordering.then_eq_eq.mp h
    cases a
    cases b
    congr
    · exact Std.LawfulEqCmp.eq_of_compare hdate
    · exact Std.LawfulEqCmp.eq_of_compare htime

namespace Value

variable {a b : Value}

/-! ### Equality and order of two values -/

/-- It does not matter which of two values is asked whether it equals the other. -/
theorem equal_comm (a b : Value) : a.equal b = b.equal a := by
  have hsame : decide (a.Same b) = decide (b.Same a) := decide_eq_decide.mpr ⟨Same.symm, Same.symm⟩
  -- where a text meets a number, sameness is that of the numbers
  have hnumber (n : Decimal) (s : String) : (number n).equal (string s) = (string s).equal (number n) := by
    change Option.any _ _ = Option.any _ _
    congr 1
    funext m
    exact decide_eq_decide.mpr ⟨Decimal.Same.symm, Decimal.Same.symm⟩
  cases a <;> cases b
  case number.string => exact hnumber _ _
  case string.number => exact (hnumber _ _).symm
  case dateTime.string | string.dateTime | boolean.string | string.boolean => rfl
  all_goals exact hsame

/-- The order of two values is the opposite one from the other side. -/
theorem compare?_swap (a b : Value) : compare? b a = (compare? a b).map Ordering.swap := by
  cases a <;> cases b <;>
    simp only [compare?, Option.map_some, Option.map_none, Option.map_map, Option.some.injEq]
  case number.number | dateTime.dateTime | string.string | boolean.boolean =>
    exact Std.OrientedCmp.eq_swap
  -- whatever the text is read as, the orders are opposite
  case number.string | string.number | dateTime.string | string.dateTime =>
    congr 1
    funext read
    exact Std.OrientedCmp.eq_swap

/-- Of two values of one kind that have an order neither comes first exactly if they are equal. -/
theorem compare?_eq_iff_of_kind_eq (hkind : a.kind = b.kind) {order : Ordering}
    (h : compare? a b = some order) : order = .eq ↔ a.equal b = true := by
  -- of one kind there are four pairs with an order: decimals are equal as numbers, all others as values
  cases a <;> cases b <;> simp only [kind, reduceCtorEq] at hkind <;>
    simp only [compare?, reduceCtorEq, Option.some.injEq] at h <;> subst h
  case number.number n m => exact Decimal.compare_eq_iff.trans decide_eq_true_iff.symm
  case dateTime.dateTime d e =>
    change DateTime.compare d e = .eq ↔ decide (dateTime d = dateTime e) = true
    rw [Std.LawfulEqCmp.compare_eq_iff_eq, decide_eq_true_iff, dateTime.injEq]
  case string.string s t =>
    change Ord.compare s t = .eq ↔ decide (string s = string t) = true
    rw [Std.compare_eq_iff_eq, decide_eq_true_iff, string.injEq]
  case boolean.boolean p q =>
    change Ord.compare p q = .eq ↔ decide (boolean p = boolean q) = true
    rw [Std.compare_eq_iff_eq, decide_eq_true_iff, boolean.injEq]

/-! ### Values and texts -/

/-- The value of a kind that a text spells, for the kinds whose values have texts of their own. -/
def spelled? (kind : ValueKind) (s : String) : Option Value :=
  match kind with
  | .number => (Decimal.ofText? s).map number
  | .boolean => (readBool? s).map boolean
  | .dateTime => (DateTime.ofText? s).map dateTime
  | _ => none

section Spelled

variable {v w : Value} {s : String}

theorem kind_of_spelled? {kind : ValueKind} (h : spelled? kind s = some w) : w.kind = kind := by
  unfold spelled? at h
  split at h
  · obtain ⟨n, -, rfl⟩ := Option.map_eq_some_iff.mp h
    rfl
  · obtain ⟨b, -, rfl⟩ := Option.map_eq_some_iff.mp h
    rfl
  · obtain ⟨d, -, rfl⟩ := Option.map_eq_some_iff.mp h
    rfl
  · exact nomatch h

/-- A text is coerced to what it spells. -/
theorem coerce_string_eq (hv : v.HasOwnText) (s function : String) (position : Nat) :
    (string s).coerce function position (.only v.kind) =
      (spelled? v.kind s).elim (.error (mismatch function position v.kind (string s))) .ok := by
  cases v with
  | number _ =>
    -- both sides read the text in the same way
    change Option.elim (Decimal.ofText? s) _ _ = Option.elim (Option.map _ (Decimal.ofText? s)) _ _
    cases Decimal.ofText? s <;> rfl
  | boolean _ =>
    change Option.elim (readBool? s) _ _ = Option.elim (Option.map _ (readBool? s)) _ _
    cases readBool? s <;> rfl
  | dateTime _ =>
    change Option.elim (DateTime.ofText? s) _ _ = Option.elim (Option.map _ (DateTime.ofText? s)) _ _
    cases DateTime.ofText? s <;> rfl
  | string _ => exact absurd hv (by simp [HasOwnText, kind])
  | optionList _ => exact absurd hv (by simp [HasOwnText, kind])
  | null => exact absurd hv (by simp [HasOwnText, kind])

/-- A value equals a text exactly if it equals what the text spells. -/
theorem equal_string (hv : v.HasOwnText) (s : String) :
    v.equal (string s) = (spelled? v.kind s).any v.equal := by
  cases v with
  | number n =>
    change Option.any _ (Decimal.ofText? s) = Option.any _ (Option.map _ (Decimal.ofText? s))
    cases Decimal.ofText? s <;> rfl
  | boolean b =>
    change decide (readBool? s = some b) = Option.any _ (Option.map _ (readBool? s))
    cases readBool? s with
    | none => rfl
    | some c => cases b <;> cases c <;> rfl
  | dateTime d =>
    change decide (DateTime.ofText? s = some d) = Option.any _ (Option.map _ (DateTime.ofText? s))
    cases DateTime.ofText? s with
    | none => rfl
    | some e =>
      change decide (some e = some d) = decide (dateTime d = dateTime e)
      rw [decide_eq_decide, Option.some.injEq, dateTime.injEq, eq_comm]
  | string _ => exact absurd hv (by simp [HasOwnText, kind])
  | optionList _ => exact absurd hv (by simp [HasOwnText, kind])
  | null => exact absurd hv (by simp [HasOwnText, kind])

/-- A number and a date-time have the order with a text that they have with what the text spells. -/
theorem compare?_string (hv : v.kind = .number ∨ v.kind = .dateTime) (s : String) :
    compare? v (string s) = (spelled? v.kind s).bind (compare? v) := by
  cases v with
  | number n =>
    change Option.map _ (Decimal.ofText? s) = Option.bind (Option.map _ (Decimal.ofText? s)) _
    cases Decimal.ofText? s <;> rfl
  | dateTime d =>
    change Option.map _ (DateTime.ofText? s) = Option.bind (Option.map _ (DateTime.ofText? s)) _
    cases DateTime.ofText? s <;> rfl
  | _ => exact absurd hv (by simp [kind])

/-- Two numbers have an order, and so have two date-times. -/
theorem exists_compare? (hv : v.kind = .number ∨ v.kind = .dateTime) (hkind : w.kind = v.kind) :
    ∃ order, compare? v w = some order := by
  cases v <;> cases w <;> simp [kind] at hv hkind
  case number.number => exact ⟨_, rfl⟩
  case dateTime.dateTime => exact ⟨_, rfl⟩

theorem compare?_string_eq_iff (hv : v.kind = .number ∨ v.kind = .dateTime) {order : Ordering}
    (h : compare? v (string s) = some order) : order = .eq ↔ v.equal (string s) = true := by
  rw [compare?_string hv] at h
  -- an order with a text is one with what it spells, which is of the same kind
  obtain ⟨w, hspelled, horder⟩ := Option.bind_eq_some_iff.mp h
  rw [equal_string (hv.imp_right .inr), hspelled, Option.any_some]
  exact compare?_eq_iff_of_kind_eq (kind_of_spelled? hspelled).symm horder

end Spelled

/-- Values that have an order are of one kind, or one of them is a text and the other has texts of its own. -/
theorem kinds_of_compare? {order : Ordering} (h : compare? a b = some order) :
    a.kind = b.kind ∨ (∃ s, b = string s ∧ (a.kind = .number ∨ a.kind = .dateTime)) ∨
      ∃ s, a = string s ∧ (b.kind = .number ∨ b.kind = .dateTime) := by
  cases a <;> cases b <;> simp [compare?, kind] at h ⊢

/-- **Values that have an order are equal exactly if neither comes first.** -/
theorem compare?_eq_iff_equal {order : Ordering} (h : compare? a b = some order) :
    order = .eq ↔ a.equal b = true := by
  rcases kinds_of_compare? h with hkind | ⟨s, rfl, ha⟩ | ⟨s, rfl, hb⟩
  · exact compare?_eq_iff_of_kind_eq hkind h
  · exact compare?_string_eq_iff ha h
  · -- from the other side it is the same
    have hswapped : compare? b (string s) = some order.swap := by
      rw [compare?_swap, h, Option.map_some]
    rw [equal_comm, ← compare?_string_eq_iff hb hswapped, Ordering.swap_eq_eq]

theorem compare_eq_ok_iff {function : String} {order : Ordering} :
    a.compare function b = .ok order ↔ compare? a b = some order := by
  unfold compare
  cases compare? a b <;> simp

end Value

/-! ### Operators -/

/-- Whether an operator of comparison holds of values in an order. -/
def Symbol.holdsIn (order : Ordering) : Symbol → Bool
  | .equal => order.isEq
  | .notEqual => order.isNe
  | .lessThan => order.isLT
  | .lessEqual => order.isLE
  | .greaterThan => order.isGT
  | .greaterEqual => order.isGE
  | _ => false

namespace Context

variable {c : Context} {e e' : Expression} {v w : Value}

theorem evaluate_not (hc : c.registry = .builtin) {b : Bool} (he : c.evaluate e = .ok (.boolean b)) :
    c.evaluate e.not = .ok (.boolean !b) := by
  have haccepts : Builtin.logical[3].Accepts [e].length := show Builtin.logical[3].Accepts 1 by decide
  have hnot := evaluate_builtin hc (d := Builtin.logical[3]) (by decide) rfl rfl haccepts
  rw [evaluateAll_one he] at hnot
  exact hnot

section Operators

variable (hc : c.registry = .builtin) (he : c.evaluate e = .ok v) (he' : c.evaluate e' = .ok w)
  {order : Ordering} (h : v.compare? w = some order)
include hc he he' h

theorem evaluate_equals_of_compare? :
    c.evaluate (.call "EQUALS" [e, e']) = .ok (.boolean order.isEq) := by
  have hequal : v.equal w = order.isEq := by
    rw [Bool.eq_iff_iff, ← Value.compare?_eq_iff_equal h, Ordering.isEq_iff_eq_eq]
  rw [evaluate_equals hc he he', hequal]

theorem evaluate_greaterThan_of_compare? :
    c.evaluate (.call "GREATER_THAN" [e, e']) = .ok (.boolean order.isGT) := by
  have horder : v.compare "GREATER_THAN" w = .ok order := Value.compare_eq_ok_iff.mpr h
  refine (evaluate_test hc (d := Builtin.comparison[1]) (by decide) rfl he he').trans ?_
  change ((v.compare "GREATER_THAN" w).map (· == .gt)).map Value.boolean = _
  rw [horder]
  cases order <;> rfl

theorem evaluate_lessThan_of_compare? :
    c.evaluate (.call "LESS_THAN" [e, e']) = .ok (.boolean order.isLT) := by
  have horder : v.compare "LESS_THAN" w = .ok order := Value.compare_eq_ok_iff.mpr h
  refine (evaluate_test hc (d := Builtin.comparison[2]) (by decide) rfl he he').trans ?_
  change ((v.compare "LESS_THAN" w).map (· == .lt)).map Value.boolean = _
  rw [horder]
  cases order <;> rfl

/-- **An operator of comparison tells the order** of the values of two expressions. -/
theorem evaluate_joined {symbol : Symbol} {joined : Expression}
    (hjoins : Joins .comparison symbol e e' joined) :
    c.evaluate joined = .ok (.boolean (symbol.holdsIn order)) := by
  have hequal := evaluate_equals_of_compare? hc he he' h
  have hgreater := evaluate_greaterThan_of_compare? hc he he' h
  have hless := evaluate_lessThan_of_compare? hc he he' h
  cases hjoins with
  | equal => exact hequal
  | notEqual =>
    refine (evaluate_not hc hequal).trans ?_
    cases order <;> rfl
  | lessThan => exact hless
  | lessEqual =>
    refine (evaluate_not hc hgreater).trans ?_
    cases order <;> rfl
  | greaterThan => exact hgreater
  | greaterEqual =>
    refine (evaluate_not hc hless).trans ?_
    cases order <;> rfl

end Operators

end Context

/-- **Equality, order and coercion agree.** Equality is symmetric. Two values have an order from either side
or from none; the two orders are opposite, and they are that of equal values exactly if the values are equal.
So of `<`, `==` and `>` between two expressions with such values exactly one is true, and `<=`, `>=` and `!=`
are the negations of `>`, `<` and `==`.

A number, a truth value and a date-time equal a text exactly if the text can be coerced to their kind and is
then equal to them. A number and a date-time have the order with a text that they have with what the text is
coerced to, and none exactly if it cannot be coerced. -/
theorem Value.comparison_coherent (a b : Value) :
    a.equal b = b.equal a ∧
    (∀ function, (∃ order, a.compare function b = .ok order) ↔
      ∃ order, b.compare function a = .ok order) ∧
    (∀ function order, a.compare function b = .ok order →
      b.compare function a = .ok order.swap ∧ (order = .eq ↔ a.equal b = true) ∧
      ∀ (c : Context) (e e' : Expression), c.registry = .builtin → c.evaluate e = .ok a →
        c.evaluate e' = .ok b → ∃ holds : Symbol → Bool,
          (∀ symbol joined, Joins .comparison symbol e e' joined →
            c.evaluate joined = .ok (.boolean (holds symbol))) ∧
          [holds .lessThan, holds .equal, holds .greaterThan].count true = 1 ∧
          holds .lessEqual = !holds .greaterThan ∧ holds .greaterEqual = !holds .lessThan ∧
          holds .notEqual = !holds .equal) ∧
    (∀ (s function : String) (position : Nat), a.HasOwnText →
      (a.equal (string s) = true ↔
        ∃ w, (string s).coerce function position (.only a.kind) = .ok w ∧ a.equal w = true)) ∧
    ∀ (s function : String) (position : Nat), a.kind = .number ∨ a.kind = .dateTime →
      (∀ w, (string s).coerce function position (.only a.kind) = .ok w →
        a.compare function (string s) = a.compare function w) ∧
      ((∃ fault, a.compare function (string s) = .error fault) ↔
        ∃ fault, (string s).coerce function position (.only a.kind) = .error fault) := by
  refine ⟨equal_comm a b, fun function => ?_, fun function order h => ?_, fun s function position ha => ?_,
    fun s function position ha => ?_⟩
  · simp only [compare_eq_ok_iff, ← Option.isSome_iff_exists]
    rw [compare?_swap a b, Option.isSome_map]
  · rw [compare_eq_ok_iff] at h ⊢
    refine ⟨by rw [compare?_swap, h, Option.map_some], compare?_eq_iff_equal h, ?_⟩
    intro c e e' hc he he'
    refine ⟨(·.holdsIn order), fun _ _ => Context.evaluate_joined hc he he' h, ?_⟩
    cases order <;> decide
  · rw [coerce_string_eq ha, equal_string ha]
    cases spelled? a.kind s <;> simp
  · have hown : a.HasOwnText := ha.imp_right .inr
    rw [coerce_string_eq hown]
    have hstring := compare?_string ha s
    cases hspelled : spelled? a.kind s with
    | none =>
      -- what cannot be coerced has no order either
      rw [hspelled, Option.bind_none] at hstring
      have hfails : a.compare function (string s) = .error (.typeMismatch function 2 a.kind (some .string)) := by
        rw [compare, hstring]
        rfl
      exact ⟨fun _ hw => absurd hw (by simp), iff_of_true ⟨_, hfails⟩ ⟨_, rfl⟩⟩
    | some w =>
      obtain ⟨order, horder⟩ := exists_compare? ha (kind_of_spelled? hspelled)
      rw [hspelled, Option.bind_some, horder] at hstring
      have hcompare : a.compare function (string s) = .ok order := compare_eq_ok_iff.mpr hstring
      rw [hcompare]
      refine ⟨fun w' hw' => ?_, iff_of_false (by simp) (by simp)⟩
      obtain rfl : w = w' := Except.ok.inj hw'
      exact (compare_eq_ok_iff.mpr horder).symm

/-- One comes before two and a half, written as a text with blanks around it, and `<` says so; it equals the
text `1.0`, and has no order with a text that is no number. -/
theorem Value.comparison_coherent_number :
    (string " 2.5 ").compare "ORDER" (number .one) = .ok .gt ∧
    (∃ holds : Symbol → Bool, holds .greaterEqual = !holds .lessThan ∧
      Context.evaluate { data := .empty, now := .origin }
        (.call "LESS_THAN" [.literal (number .one), .literal (string " 2.5 ")]) =
          .ok (.boolean (holds .lessThan))) ∧
    (number .one).equal (string "1.0") = true ∧
    ∃ fault, (number .one).compare "ORDER" (string "soon") = .error fault := by
  obtain ⟨-, -, hordered, hequal, htexts⟩ := comparison_coherent (number .one) (string " 2.5 ")
  have hless : (number .one).compare "ORDER" (string " 2.5 ") = .ok .lt := rfl
  obtain ⟨hgreater, -, hoperators⟩ := hordered "ORDER" .lt hless
  have hliteral (c : Context) (v : Value) : c.evaluate (.literal v) = .ok v := Context.evaluate.eq_1 c v
  obtain ⟨holds, hjoined, -, -, hnegation, -⟩ := hoperators { data := .empty, now := .origin } _ _ rfl
    (hliteral _ (number .one)) (hliteral _ (string " 2.5 "))
  refine ⟨hgreater, ⟨holds, hnegation, hjoined _ _ (.lessThan _ _)⟩, ?_, ?_⟩
  · exact (hequal "1.0" "ORDER" 0 (.inl rfl)).mpr ⟨_, rfl, rfl⟩
  · exact (htexts "soon" "ORDER" 0 (.inl rfl)).2.mpr ⟨_, rfl⟩

end Formulary
