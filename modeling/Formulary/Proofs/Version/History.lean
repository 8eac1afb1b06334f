import Formulary.Version.Selection
import Mathlib.Data.List.Nodup

/-!
# What a history keeps, and which version it selects

Versions are offered to a history one after the other; it accepts some of them and refuses the others
(`FormulaHistory.offerAll`). `FormulaHistory.select_offerAll` says what comes of that for every sequence of
offers: which versions the history holds, how it answers the next offer, and which version it selects at a
moment.

Selection looks for a version from the end of the list. It finds the one with the greatest number because the
numbers ascend (`FormulaHistory.find?_reverse_eq_some_iff`), which is what every accepted version preserves.
-/

namespace Formulary

/-- **A version is in force** once it is published, and only from the first to the last moment of its
window, both included. -/
structure FormulaVersion.InForce (v : FormulaVersion) (now : DateTime) : Prop where
  published : ∃ moment, v.publishedAt = some moment
  started : ∀ start, v.effectiveFrom = some start → start.compare now ≠ .gt
  lasting : ∀ last, v.effectiveTo = some last → now.compare last ≠ .gt

theorem FormulaVersion.isPublished_iff {v : FormulaVersion} :
    v.isPublished = true ↔ ∃ moment, v.publishedAt = some moment := Option.isSome_iff_exists

theorem FormulaVersion.isEvaluableAt_iff {v : FormulaVersion} {now : DateTime} :
    v.isEvaluableAt now = true ↔ v.InForce now := by
  have hwindow {p : DateTime → Ordering} (limit : Option DateTime) :
      (limit.all fun moment => (p moment).isLE) = true ↔
        ∀ moment, limit = some moment → p moment ≠ .gt := by
    cases limit with
    | none => simp
    | some moment => cases h : p moment <;> simp [h]
  rw [isEvaluableAt, isEffectiveAt, Bool.and_eq_true, Bool.and_eq_true, isPublished_iff, hwindow, hwindow]
  exact ⟨fun h => ⟨h.1, h.2.1, h.2.2⟩, fun h => ⟨h.published, h.started, h.lasting⟩⟩

namespace FormulaHistory

/-- The history after a version has been offered to it: a version that is refused leaves it as it was. -/
def offer (h : FormulaHistory) (v : FormulaVersion) : FormulaHistory :=
  match h.add v with
  | .ok added => added
  | .error _ => h

/-- The history after versions have been offered to it one after the other. -/
def offerAll (h : FormulaHistory) (offered : List FormulaVersion) : FormulaHistory :=
  offered.foldl offer h

/-- Those of some offered versions that are accepted. -/
def accepted (h : FormulaHistory) : List FormulaVersion → List FormulaVersion
  | [] => []
  | v :: rest =>
    match h.add v with
    | .ok added => v :: added.accepted rest
    | .error _ => h.accepted rest

/-- A version is the one with the greatest number among those that pass a test. -/
structure IsHighest (h : FormulaHistory) (passes : FormulaVersion → Prop) (v : FormulaVersion) :
    Prop where
  mem : v ∈ h.versions
  holds : passes v
  le : ∀ w ∈ h.versions, passes w → w.number ≤ v.number

variable {h : FormulaHistory} {v : FormulaVersion}

/-! ### Offers -/

theorem perm_insertVersion (v : FormulaVersion) (versions : List FormulaVersion) :
    (insertVersion v versions).Perm (v :: versions) := by
  induction versions with
  | nil => exact .refl _
  | cons first rest ih =>
    rw [insertVersion]
    split
    · exact .refl _
    · exact (ih.cons first).trans (.swap v first rest)

/-- **How an offer is answered**: a version of another formula is refused as such, one whose number is taken
as a repetition, and any other is accepted. -/
theorem add_cases (h : FormulaHistory) (v : FormulaVersion) :
    (v.formula ≠ h.name ∧ h.add v = .error (.foreignVersion h.name v.formula)) ∨
      (v.formula = h.name ∧ (∃ w ∈ h.versions, w.number = v.number) ∧
        h.add v = .error (.duplicateVersion h.name v.number)) ∨
      (v.formula = h.name ∧ (∀ w ∈ h.versions, w.number ≠ v.number) ∧
        ∃ added, h.add v = .ok added ∧ added.name = h.name ∧ added.versions.Perm (v :: h.versions)) := by
  -- the two reasons to refuse, in the order in which they are looked at
  by_cases hforeign : v.formula = h.name
  · by_cases htaken : ∃ w ∈ h.versions, w.number = v.number
    · refine Or.inr (Or.inl ⟨hforeign, htaken, ?_⟩)
      rw [add, dif_neg (not_not.mpr hforeign), dif_pos htaken]
    · refine Or.inr (Or.inr ⟨hforeign, fun w hw hnumber => htaken ⟨w, hw, hnumber⟩, ?_⟩)
      rw [add, dif_neg (not_not.mpr hforeign), dif_neg htaken]
      exact ⟨_, rfl, rfl, perm_insertVersion v h.versions⟩
  · refine Or.inl ⟨hforeign, ?_⟩
    rw [add, dif_pos hforeign]

theorem add_eq_foreignVersion_iff {expected actual : String} :
    h.add v = .error (.foreignVersion expected actual) ↔
      v.formula ≠ h.name ∧ expected = h.name ∧ actual = v.formula := by
  rcases h.add_cases v with ⟨hforeign, hadd⟩ | ⟨hformula, -, hadd⟩ | ⟨hformula, -, added, hadd, -⟩
  · rw [hadd]
    simp [hforeign, eq_comm]
  · simp [hadd, hformula]
  · simp [hadd, hformula]

theorem add_eq_duplicateVersion_iff {formula : String} {number : Nat} :
    h.add v = .error (.duplicateVersion formula number) ↔
      v.formula = h.name ∧ (∃ w ∈ h.versions, w.number = v.number) ∧
        formula = h.name ∧ number = v.number := by
  rcases h.add_cases v with ⟨hforeign, hadd⟩ | ⟨hformula, htaken, hadd⟩ | ⟨-, hfree, added, hadd, -⟩
  · simp [hadd, hforeign]
  · rw [hadd, Except.error.injEq, HistoryFault.duplicateVersion.injEq]
    constructor
    · rintro ⟨rfl, rfl⟩
      exact ⟨hformula, htaken, rfl, rfl⟩
    · rintro ⟨-, -, rfl, rfl⟩
      exact ⟨rfl, rfl⟩
  · rw [hadd]
    constructor
    · exact fun hok => nomatch hok
    · rintro ⟨-, ⟨w, hw, hnumber⟩, -⟩
      exact absurd hnumber (hfree w hw)

theorem name_offer (h : FormulaHistory) (v : FormulaVersion) : (h.offer v).name = h.name := by
  rcases h.add_cases v with ⟨-, hadd⟩ | ⟨-, -, hadd⟩ | ⟨-, -, added, hadd, hname, -⟩ <;>
    rw [offer, hadd]
  exact hname

theorem name_offerAll (h : FormulaHistory) (offered : List FormulaVersion) :
    (h.offerAll offered).name = h.name := by
  induction offered generalizing h with
  | nil => rfl
  | cons v rest ih => exact (ih (h.offer v)).trans (h.name_offer v)

/-- **A history holds what it held before and what it has accepted.** -/
theorem versions_offerAll (h : FormulaHistory) (offered : List FormulaVersion) :
    (h.offerAll offered).versions.Perm (h.accepted offered ++ h.versions) := by
  -- along the offers, from whatever history they are made to
  induction offered generalizing h with
  | nil => exact .refl _
  | cons v rest ih =>
    have hrest := ih (h.offer v)
    rw [offerAll, List.foldl_cons, ← offerAll, accepted]
    cases hadd : h.add v with
    | error fault =>
      have hsame : h.offer v = h := by rw [offer, hadd]
      rwa [hsame] at hrest ⊢
    | ok added =>
      have hadded : h.offer v = added := by rw [offer, hadd]
      rw [hadded] at hrest ⊢
      -- the one that comes is the one that was offered
      rcases h.add_cases v with ⟨-, hfault⟩ | ⟨-, -, hfault⟩ | ⟨-, -, added', hadd', -, hperm⟩
      · exact absurd (hadd.symm.trans hfault) (by simp)
      · exact absurd (hadd.symm.trans hfault) (by simp)
      · obtain rfl := Except.ok.inj (hadd.symm.trans hadd')
        exact hrest.trans ((hperm.append_left _).trans List.perm_middle)

/-! ### Selection -/

theorem eq_of_number_eq {w : FormulaVersion} (hv : v ∈ h.versions) (hw : w ∈ h.versions)
    (hnumber : v.number = w.number) : v = w := by
  have hnodup : (h.versions.map FormulaVersion.number).Nodup :=
    List.pairwise_map.mpr (h.ascending.imp Nat.ne_of_lt)
  exact List.inj_on_of_nodup_map hnodup hv hw hnumber

theorem IsHighest.unique {passes : FormulaVersion → Prop} {w : FormulaVersion}
    (hv : h.IsHighest passes v) (hw : h.IsHighest passes w) : v = w :=
  eq_of_number_eq hv.mem hw.mem (Nat.le_antisymm (hw.le v hv.mem hv.holds) (hv.le w hw.mem hw.holds))

/-- **Looking from the end finds the greatest number.** -/
theorem find?_reverse_eq_some_iff {p : FormulaVersion → Bool} :
    h.versions.reverse.find? p = some v ↔ h.IsHighest (fun v => p v = true) v := by
  have hfound {v : FormulaVersion} (hfind : h.versions.reverse.find? p = some v) :
      h.IsHighest (fun v => p v = true) v := by
    obtain ⟨hp, later, earlier, hsplit, hlater⟩ := List.find?_eq_some_iff_append.mp hfind
    -- read the other way round, what stands before the one found are those that have not passed
    have hversions : h.versions = earlier.reverse ++ v :: later.reverse := by
      rw [← List.reverse_reverse h.versions, hsplit]
      simp
    refine ⟨by simp [hversions], hp, fun w hw hpw => ?_⟩
    have hascending := h.ascending
    rw [hversions, List.pairwise_append] at hascending
    rw [hversions, List.mem_append, List.mem_cons] at hw
    rcases hw with hw | rfl | hw
    · exact Nat.le_of_lt (hascending.2.2 w hw v List.mem_cons_self)
    · exact Nat.le_refl _
    · -- whatever comes later has not passed
      have hfails := hlater w (List.mem_reverse.mp hw)
      simp [hpw] at hfails
  refine ⟨hfound, fun hhighest => ?_⟩
  cases hfind : h.versions.reverse.find? p with
  | none =>
    have hfails := List.find?_eq_none.mp hfind v (List.mem_reverse.mpr hhighest.mem)
    exact absurd hhighest.holds hfails
  | some w => rw [(hfound hfind).unique hhighest]

theorem find?_reverse_eq_none_iff {p : FormulaVersion → Bool} :
    h.versions.reverse.find? p = none ↔ ∀ w ∈ h.versions, ¬p w = true := by
  simp [List.find?_eq_none]

theorem isHighest_of_getLast? (hlast : h.versions.getLast? = some v) :
    h.IsHighest (fun _ => True) v := by
  have hfind : h.versions.reverse.find? (fun _ => true) = some v := by
    rw [← List.head?_reverse] at hlast
    obtain ⟨rest, hrest⟩ := List.head?_eq_some_iff.mp hlast
    rw [hrest]
    rfl
  obtain ⟨hmem, -, hle⟩ := find?_reverse_eq_some_iff.mp hfind
  exact ⟨hmem, trivial, fun w hw _ => hle w hw rfl⟩

theorem version?_eq_some_iff {number : Nat} :
    h.version? number = some v ↔ v ∈ h.versions ∧ v.number = number := by
  constructor
  · intro hfind
    exact ⟨List.mem_of_find?_eq_some hfind, by simpa using List.find?_some hfind⟩
  · rintro ⟨hv, hnumber⟩
    cases hfind : h.version? number with
    | none => exact absurd hnumber (by simpa using List.find?_eq_none.mp hfind v hv)
    | some w =>
      have hw : w.number = number := by simpa using List.find?_some hfind
      -- no two versions of a history have the same number
      rw [eq_of_number_eq (List.mem_of_find?_eq_some hfind) hv (hw.trans hnumber.symm)]

/-- **A version asked for by its number** is selected if it is there and in force. -/
theorem select_some_eq_ok_iff {number : Nat} {now : DateTime} :
    h.select (some number) now = .ok v ↔ v ∈ h.versions ∧ v.number = number ∧ v.InForce now := by
  rw [← and_assoc, ← version?_eq_some_iff, ← FormulaVersion.isEvaluableAt_iff, select, selectPinned]
  cases h.version? number with
  | none => simp
  | some w =>
    rw [Option.some.injEq, FormulaVersion.isEvaluableAt]
    dsimp only
    constructor
    · intro hok
      split at hok
      · exact nomatch hok
      · split at hok
        · exact nomatch hok
        · obtain rfl := Except.ok.inj hok
          simp_all
    · rintro ⟨rfl, hforce⟩
      rw [Bool.and_eq_true] at hforce
      simp [hforce.1, hforce.2]

/-- **Without a number** the highest version in force is selected. -/
theorem select_none_eq_ok_iff {now : DateTime} :
    h.select none now = .ok v ↔ h.IsHighest (fun v => v.InForce now) v := by
  have hlatest : h.latestAt? now = some v ↔ h.IsHighest (fun v => v.InForce now) v := by
    simp only [← FormulaVersion.isEvaluableAt_iff]
    exact find?_reverse_eq_some_iff
  rw [select, selectLatest, ← hlatest]
  cases h.latestAt? now with
  | some w => simp
  | none =>
    -- whatever stands in the history, there is a fault
    dsimp only
    split
    · simp
    · split <;> simp

/-- What is said when no version is in force: it names the highest published one, or else the highest one, or
else the formula. -/
def Explains (h : FormulaHistory) (fault : SelectionFault) : Prop :=
  (∃ v, h.IsHighest (fun v => v.isPublished = true) v ∧ fault = .notEffective h.name v.number) ∨
  (∀ v ∈ h.versions, ¬v.isPublished = true) ∧
    ((∃ v, h.IsHighest (fun _ => True) v ∧ fault = .notPublished h.name v.number) ∨
      h.versions = [] ∧ fault = .unknownFormula h.name)

/-- A fault that names a highest version names the highest one. -/
theorem IsHighest.error_eq_iff {passes : FormulaVersion → Prop} (hv : h.IsHighest passes v)
    (naming : String → Nat → SelectionFault) {fault : SelectionFault} :
    Except.error (naming v.formula v.number) = (.error fault : Except SelectionFault FormulaVersion) ↔
      ∃ w, h.IsHighest passes w ∧ fault = naming h.name w.number := by
  rw [h.named v hv.mem]
  constructor
  · intro herror
    exact ⟨v, hv, (Except.error.inj herror).symm⟩
  · rintro ⟨w, hw, rfl⟩
    rw [hv.unique hw]

/-- Where no version is in force, the fault says what came nearest. -/
theorem select_none_eq_error_of_latestAt? {now : DateTime} {fault : SelectionFault}
    (hlatest : h.latestAt? now = none) : h.select none now = .error fault ↔ h.Explains fault := by
  rw [select, selectLatest, hlatest, Explains]
  dsimp only
  cases hpublished : h.versions.reverse.find? FormulaVersion.isPublished with
  | some w =>
    have hw := find?_reverse_eq_some_iff.mp hpublished
    dsimp only
    -- a version is published, so the other explanation is out of question
    rw [hw.error_eq_iff .notEffective]
    exact ⟨Or.inl, fun hexplains => hexplains.resolve_right fun hdraft => hdraft.1 w hw.mem hw.holds⟩
  | none =>
    have hdraft := find?_reverse_eq_none_iff.mp hpublished
    have hnot : ¬∃ v, h.IsHighest (fun v => v.isPublished = true) v ∧
        fault = .notEffective h.name v.number := by
      rintro ⟨v, hv, -⟩
      exact hdraft v hv.mem hv.holds
    -- none is published: what is left is the highest one, or that there is none
    rw [or_iff_right hnot, and_iff_right hdraft]
    dsimp only
    cases hlast : h.versions.getLast? with
    | some w =>
      have hw := isHighest_of_getLast? hlast
      have hne : h.versions ≠ [] := List.ne_nil_of_mem hw.mem
      dsimp only
      rw [hw.error_eq_iff .notPublished]
      exact ⟨Or.inl, fun hexplains => hexplains.resolve_right fun hempty => hne hempty.1⟩
    | none =>
      have hempty := List.getLast?_eq_none_iff.mp hlast
      constructor
      · intro herror
        exact Or.inr ⟨hempty, (Except.error.inj herror).symm⟩
      · rintro (⟨v, hv, -⟩ | ⟨-, rfl⟩)
        · exact absurd hv.mem (by simp [hempty])
        · rfl

/-- **A fault without a number** means that no version is in force, and says what came nearest. -/
theorem select_none_eq_error_iff {now : DateTime} {fault : SelectionFault} :
    h.select none now = .error fault ↔ (∀ v ∈ h.versions, ¬v.InForce now) ∧ h.Explains fault := by
  cases hlatest : h.latestAt? now with
  | some w =>
    have hw := find?_reverse_eq_some_iff.mp hlatest
    rw [select, selectLatest, hlatest]
    constructor
    · exact fun herror => nomatch herror
    · rintro ⟨hnone, -⟩
      exact absurd (FormulaVersion.isEvaluableAt_iff.mp hw.holds) (hnone w hw.mem)
  | none =>
    have hnone : ∀ v ∈ h.versions, ¬v.InForce now := by
      simp only [← FormulaVersion.isEvaluableAt_iff]
      exact find?_reverse_eq_none_iff.mp hlatest
    rw [and_iff_right hnone, select_none_eq_error_of_latestAt? hlatest]

/-- **What comes of offering versions to a history**, in whatever order. It holds what it has accepted, in
ascending order of the numbers. The next version is refused as one of another formula exactly if it is one,
otherwise as a repetition exactly if its number is taken, and a version that is refused changes nothing.
Selection gives the highest version in force, or the one asked for if that is in force; where no version is in
force the fault names the highest published one, or else the highest one, or else the formula. -/
theorem select_offerAll (name : String) (offered : List FormulaVersion) :
    let h := (empty name).offerAll offered
    (h.name = name ∧ h.versions.Pairwise (fun a b => a.number < b.number) ∧
      h.versions.Perm ((empty name).accepted offered)) ∧
    (∀ v, (h.add v = .error (.foreignVersion name v.formula) ↔ v.formula ≠ name) ∧
      (h.add v = .error (.duplicateVersion name v.number) ↔
        v.formula = name ∧ ∃ w ∈ h.versions, w.number = v.number) ∧
      ∀ fault, h.add v = .error fault → h.offer v = h ∧
        (fault = .foreignVersion name v.formula ∨ fault = .duplicateVersion name v.number)) ∧
    (∀ now v, h.select none now = .ok v ↔ h.IsHighest (fun v => v.InForce now) v) ∧
    (∀ now fault, h.select none now = .error fault ↔
      (∀ v ∈ h.versions, ¬v.InForce now) ∧ h.Explains fault) ∧
    ∀ now number v, h.select (some number) now = .ok v ↔
      v ∈ h.versions ∧ v.number = number ∧ v.InForce now := by
  intro h
  have hname : h.name = name := name_offerAll (empty name) offered
  have hversions := versions_offerAll (empty name) offered
  rw [empty, List.append_nil] at hversions
  refine ⟨⟨hname, h.ascending, hversions⟩, fun v => ⟨?_, ?_, fun fault hfault => ⟨?_, ?_⟩⟩,
    fun now v => select_none_eq_ok_iff, fun now fault => select_none_eq_error_iff,
    fun now number v => select_some_eq_ok_iff⟩
  · rw [add_eq_foreignVersion_iff, hname]
    exact ⟨fun hadd => hadd.1, fun hforeign => ⟨hforeign, rfl, rfl⟩⟩
  · rw [add_eq_duplicateVersion_iff, hname]
    exact ⟨fun hadd => ⟨hadd.1, hadd.2.1⟩, fun htaken => ⟨htaken.1, htaken.2, rfl, rfl⟩⟩
  · rw [offer, hfault]
  · rw [← hname]
    -- the fault is the one that the offer was answered with
    rcases h.add_cases v with ⟨-, hadd⟩ | ⟨-, -, hadd⟩ | ⟨-, -, added, hadd, -⟩
    · exact Or.inl (Except.error.inj (hfault.symm.trans hadd))
    · exact Or.inr (Except.error.inj (hfault.symm.trans hadd))
    · exact absurd (hfault.symm.trans hadd) (by simp)

end FormulaHistory

end Formulary
