import Formulary.Options.Cache
import Formulary.Proofs.Evaluation.Agreement
import Formulary.Proofs.Value.Sameness

/-!
# When two keys are the same

Keys of one expression are the same if the names that it mentions stand for the same values
(`CacheKey.same_ofExpression_iff`), which for numbers means: for the same number.

Sameness of keys is an equivalence, so an entry belongs to all keys that are the same or to none of them
(`CacheKey.same_congr_right`).
-/

namespace Formulary.CacheKey

theorem sameInput_iff {a b : String × Option Value} :
    sameInput a b = true ↔ a.1 = b.1 ∧ Option.Rel Value.Same a.2 b.2 := by
  obtain ⟨name, v?⟩ := a
  obtain ⟨other, w?⟩ := b
  -- a value is the same as a value only, and nothing as nothing
  cases v? with
  | none =>
    cases w? with
    | none => simp [sameInput]
    | some w =>
      refine ⟨fun h => absurd h (by simp [sameInput]), ?_⟩
      rintro ⟨-, ⟨⟩⟩
  | some v =>
    cases w? with
    | none =>
      refine ⟨fun h => absurd h (by simp [sameInput]), ?_⟩
      rintro ⟨-, ⟨⟩⟩
    | some w =>
      constructor
      · intro h
        obtain ⟨hname, hvalue⟩ : name = other ∧ v.Same w := by simpa [sameInput] using h
        exact ⟨hname, .some hvalue⟩
      · rintro ⟨hname, hvalue | hvalue⟩
        simpa [sameInput] using ⟨hname, hvalue⟩

theorem sameInputs_map_iff {names : List String} {read read' : String → Option Value} :
    sameInputs (names.map fun name => (name, read name)) (names.map fun name => (name, read' name)) =
        true ↔ ∀ name ∈ names, Option.Rel Value.Same (read name) (read' name) := by
  induction names with
  | nil => simp [sameInputs]
  | cons name rest ih =>
    rw [List.map_cons, List.map_cons, sameInputs, Bool.and_eq_true, sameInput_iff, ih,
      List.forall_mem_cons]
    exact and_congr_left' (and_iff_right rfl)

/-- **When two keys of an expression are the same.** -/
theorem same_ofExpression_iff {text : String} {e : Expression} {data other : FormData} :
    (ofExpression text e data).same (ofExpression text e other) = true ↔
      ∀ name ∈ e.mentions, Option.Rel Value.Same (data.get? name) (other.get? name) := by
  simp only [same, ofExpression, beq_self_eq_true, Bool.true_and, sameInputs_map_iff,
    Expression.mem_variableNames]

theorem expression_eq_of_same {a b : CacheKey} (h : a.same b = true) :
    a.expression = b.expression := by
  rw [same, Bool.and_eq_true] at h
  exact eq_of_beq h.1

/-! ### Sameness is an equivalence -/

theorem sameInput_refl (a : String × Option Value) : sameInput a a = true := by
  refine sameInput_iff.mpr ⟨rfl, ?_⟩
  cases a.2 with
  | none => exact .none
  | some v => exact .some (Value.Same.refl v)

theorem sameInput_symm {a b : String × Option Value} (h : sameInput a b = true) :
    sameInput b a = true := by
  obtain ⟨hname, hvalue⟩ := sameInput_iff.mp h
  refine sameInput_iff.mpr ⟨hname.symm, ?_⟩
  generalize a.2 = v?, b.2 = w? at hvalue
  cases hvalue with
  | none => exact .none
  | some hvalue => exact .some hvalue.symm

theorem sameInput_trans {a b c : String × Option Value} (h : sameInput a b = true)
    (h' : sameInput b c = true) : sameInput a c = true := by
  obtain ⟨hname, hvalue⟩ := sameInput_iff.mp h
  obtain ⟨hname', hvalue'⟩ := sameInput_iff.mp h'
  refine sameInput_iff.mpr ⟨hname.trans hname', ?_⟩
  generalize a.2 = v?, b.2 = w?, c.2 = u? at hvalue hvalue'
  cases hvalue with
  | none => exact hvalue'
  | some hvalue =>
    cases hvalue' with
    | some hvalue' => exact .some (hvalue.trans hvalue')

theorem sameInputs_refl (as : List (String × Option Value)) : sameInputs as as = true := by
  induction as with
  | nil => rfl
  | cons a rest ih => rw [sameInputs, sameInput_refl, ih, Bool.and_self]

theorem sameInputs_symm {as bs : List (String × Option Value)} (h : sameInputs as bs = true) :
    sameInputs bs as = true := by
  induction as generalizing bs with
  | nil =>
    cases bs with
    | nil => rfl
    | cons b others => simp [sameInputs] at h
  | cons a rest ih =>
    cases bs with
    | nil => simp [sameInputs] at h
    | cons b others =>
      rw [sameInputs, Bool.and_eq_true] at h ⊢
      exact ⟨sameInput_symm h.1, ih h.2⟩

theorem sameInputs_trans {as bs cs : List (String × Option Value)} (h : sameInputs as bs = true)
    (h' : sameInputs bs cs = true) : sameInputs as cs = true := by
  induction as generalizing bs cs with
  | nil =>
    cases bs with
    | nil => exact h'
    | cons b others => simp [sameInputs] at h
  | cons a rest ih =>
    cases bs with
    | nil => simp [sameInputs] at h
    | cons b others =>
      cases cs with
      | nil => simp [sameInputs] at h'
      | cons c more =>
        rw [sameInputs, Bool.and_eq_true] at h h' ⊢
        exact ⟨sameInput_trans h.1 h'.1, ih h.2 h'.2⟩

variable {a b : CacheKey}

@[simp] theorem same_refl (a : CacheKey) : a.same a = true := by
  rw [same, sameInputs_refl, beq_self_eq_true, Bool.and_self]

theorem same_symm (h : a.same b = true) : b.same a = true := by
  rw [same, Bool.and_eq_true, beq_iff_eq] at h ⊢
  exact ⟨h.1.symm, sameInputs_symm h.2⟩

theorem same_trans {c : CacheKey} (h : a.same b = true) (h' : b.same c = true) : a.same c = true := by
  rw [same, Bool.and_eq_true, beq_iff_eq] at h h' ⊢
  exact ⟨h.1.trans h'.1, sameInputs_trans h.2 h'.2⟩

theorem same_comm (a b : CacheKey) : a.same b = b.same a :=
  Bool.eq_iff_iff.mpr ⟨same_symm, same_symm⟩

/-- Keys that are the same are the same as the same keys. -/
theorem same_congr_right (h : a.same b = true) (c : CacheKey) : c.same a = c.same b :=
  Bool.eq_iff_iff.mpr ⟨fun hca => same_trans hca h, fun hcb => same_trans hcb (same_symm h)⟩

end Formulary.CacheKey
