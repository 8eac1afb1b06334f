import Formulary.Document.Reader
import Formulary.Proofs.Decimal.Notation
import Formulary.Proofs.Text.Spans

/-!
# Numbers in documents

A number in a document ends where the text does not go on with it (`Ends`): what a reader keeps of a
number does not depend on what follows then (`number?_append`). The text of a decimal is a number all of
which is kept (`number?_toChars`), so a decimal is never written as anything else (`ofNumber?_toText`).
-/

namespace Formulary.Document

/-- A text that goes on with no number: it starts with no digit, no point and no exponent. -/
def Ends (rest : List Char) : Prop :=
  ∀ c ∈ rest.head?, c.isDigit = false ∧ c ≠ '.' ∧ c ≠ 'e' ∧ c ≠ 'E'

theorem ends_nil : Ends [] := by simp [Ends]

variable {c : Char} {text kept left rest : List Char}

theorem Ends.isDigit (h : Ends rest) : ∀ c ∈ rest.head?, c.isDigit = false := fun c hc => (h c hc).1

/-! ### The parts of a number -/

/-- Splits a number behind its sign off the front of a text. -/
def unsigned? (sign text : List Char) : Option (List Char × List Char) := do
  let (whole, rest) ← whole? text
  let (places, rest) ← fraction? rest
  let (exponent, rest) ← exponent? rest
  return (sign ++ whole ++ places ++ exponent, rest)

theorem number?_minus (text : List Char) : number? ('-' :: text) = unsigned? ['-'] text := rfl

theorem number?_of_ne_minus (h : ∀ c ∈ text.head?, c ≠ '-') : number? text = unsigned? [] text := by
  cases text with
  | nil => rfl
  | cons c more =>
    have hc : c ≠ '-' := h c rfl
    simp [number?, unsigned?, hc]

theorem whole?_zero (h : ∀ c ∈ rest.head?, c.isDigit = false) :
    whole? ('0' :: rest) = some (['0'], rest) := by
  cases rest with
  | nil => rfl
  | cons c rest => simp [whole?, h c rfl]

theorem whole?_of_ne_zero (hc : c ≠ '0') (more : List Char) :
    whole? (c :: more) =
      if ((c :: more).takeWhile Char.isDigit).isEmpty then none
      else some ((c :: more).takeWhile Char.isDigit, (c :: more).dropWhile Char.isDigit) := by
  rw [whole?]
  rintro other heq
  exact hc (List.cons.inj heq).1

theorem whole?_append (h : whole? text = some (kept, left)) (hrest : Ends rest) :
    whole? (text ++ rest) = some (kept, left ++ rest) := by
  cases text with
  | nil => exact absurd h (by simp [whole?])
  | cons c more =>
    by_cases hc : c = '0'
    · subst hc
      cases more with
      | nil =>
        -- the zero is the last of the text, so what follows decides whether it stands alone
        obtain ⟨rfl, rfl⟩ : ['0'] = kept ∧ [] = left := by simpa [whole?] using h
        exact whole?_zero hrest.isDigit
      | cons d more =>
        cases hd : d.isDigit with
        | true => exact absurd h (by simp [whole?, hd])
        | false =>
          obtain ⟨rfl, rfl⟩ : ['0'] = kept ∧ d :: more = left := by simpa [whole?, hd] using h
          exact whole?_zero (by simpa using hd)
    · rw [whole?_of_ne_zero hc] at h
      rw [List.cons_append, whole?_of_ne_zero hc, ← List.cons_append,
        takeWhile_append_stop _ hrest.isDigit, dropWhile_append_stop _ hrest.isDigit]
      split at h
      · exact absurd h (by simp)
      · next htaken =>
        cases h
        rw [if_neg htaken]

theorem fraction?_of_ne_point (h : ∀ c ∈ text.head?, c ≠ '.') : fraction? text = some ([], text) := by
  rw [fraction?]
  rintro rest rfl
  exact h '.' rfl rfl

theorem fraction?_append (h : fraction? text = some (kept, left)) (hrest : Ends rest) :
    fraction? (text ++ rest) = some (kept, left ++ rest) := by
  by_cases hpoint : text.head? = some '.'
  · obtain ⟨places, rfl⟩ : ∃ places, text = '.' :: places := List.head?_eq_some_iff.mp hpoint
    simp only [fraction?, List.cons_append, takeWhile_append_stop _ hrest.isDigit,
      dropWhile_append_stop _ hrest.isDigit] at h ⊢
    split at h
    · exact absurd h (by simp)
    · next htaken =>
      cases h
      rw [if_neg htaken]
  · -- without a point nothing is taken, and what ends a number does not begin with one
    rw [fraction?_of_ne_point fun c hc heq => hpoint (heq ▸ hc)] at h
    cases h
    refine fraction?_of_ne_point fun c hc => ?_
    rw [List.head?_append, Option.mem_def, Option.or_eq_some_iff] at hc
    rcases hc with hc | ⟨-, hc⟩
    · exact fun heq => hpoint (heq ▸ hc)
    · exact (hrest c hc).2.1

/-- The sign of an exponent, and its digits. -/
def exponentSign : List Char → Char × List Char
  | '+' :: digits => ('+', digits)
  | '-' :: digits => ('-', digits)
  | digits => ('+', digits)

theorem exponentSign_append {more : List Char} (hmore : more ≠ []) (rest : List Char) :
    exponentSign (more ++ rest) = ((exponentSign more).1, (exponentSign more).2 ++ rest) := by
  obtain ⟨c, more, rfl⟩ := List.exists_cons_of_ne_nil hmore
  by_cases hplus : c = '+'
  · subst hplus
    rfl
  by_cases hminus : c = '-'
  · subst hminus
    rfl
  simp [exponentSign, hplus, hminus]

theorem exponent?_of_mark (hc : c = 'e' ∨ c = 'E') (more : List Char) :
    exponent? (c :: more) =
      if ((exponentSign more).2.takeWhile Char.isDigit).isEmpty then none
      else some ('e' :: (exponentSign more).1 :: (exponentSign more).2.takeWhile Char.isDigit,
        (exponentSign more).2.dropWhile Char.isDigit) := by
  rw [exponent?.eq_def]
  dsimp only
  rw [if_pos hc]
  rfl

theorem exponent?_of_ne_mark (h : ∀ c ∈ text.head?, c ≠ 'e' ∧ c ≠ 'E') :
    exponent? text = some ([], text) := by
  cases text with
  | nil => rfl
  | cons c more =>
    rw [exponent?.eq_def]
    dsimp only
    rw [if_neg (not_or.mpr (h c rfl))]

theorem exponent?_append (h : exponent? text = some (kept, left)) (hrest : Ends rest) :
    exponent? (text ++ rest) = some (kept, left ++ rest) := by
  by_cases hmark : ∀ c ∈ text.head?, c ≠ 'e' ∧ c ≠ 'E'
  · rw [exponent?_of_ne_mark hmark] at h
    cases h
    refine exponent?_of_ne_mark fun c hc => ?_
    rw [List.head?_append, Option.mem_def, Option.or_eq_some_iff] at hc
    rcases hc with hc | ⟨-, hc⟩
    · exact hmark c hc
    · exact (hrest c hc).2.2
  · obtain ⟨c, more, rfl, hc⟩ : ∃ c more, text = c :: more ∧ (c = 'e' ∨ c = 'E') := by
      cases text with
      | nil => exact absurd (by simp) hmark
      | cons c more => exact ⟨c, more, rfl, by simpa [Decidable.or_iff_not_imp_left] using hmark⟩
    -- an exponent has a digit, so its mark is not the last character of the text
    have hmore : more ≠ [] := by
      rintro rfl
      exact absurd h (by simp [exponent?_of_mark hc, exponentSign])
    rw [exponent?_of_mark hc] at h
    rw [List.cons_append, exponent?_of_mark hc, exponentSign_append hmore,
      takeWhile_append_stop _ hrest.isDigit, dropWhile_append_stop _ hrest.isDigit]
    split at h
    · exact absurd h (by simp)
    · next htaken =>
      cases h
      rw [if_neg htaken]

/-! ### Whole numbers with their sign -/

theorem unsigned?_eq_some {sign : List Char} :
    unsigned? sign text = some (kept, left) ↔
      ∃ whole text₁ places text₂ exponent, whole? text = some (whole, text₁) ∧
        fraction? text₁ = some (places, text₂) ∧ exponent? text₂ = some (exponent, left) ∧
        sign ++ whole ++ places ++ exponent = kept := by
  simp only [unsigned?, Option.bind_eq_bind, Option.pure_def, Option.bind_eq_some_iff, Prod.exists,
    Option.some.injEq, Prod.mk.injEq]
  constructor
  · rintro ⟨whole, text₁, hwhole, places, text₂, hplaces, exponent, _, hexponent, hkept, rfl⟩
    exact ⟨whole, text₁, places, text₂, exponent, hwhole, hplaces, hexponent, hkept⟩
  · rintro ⟨whole, text₁, places, text₂, exponent, hwhole, hplaces, hexponent, hkept⟩
    exact ⟨whole, text₁, hwhole, places, text₂, hplaces, exponent, left, hexponent, hkept, rfl⟩

theorem unsigned?_append {sign : List Char} (h : unsigned? sign text = some (kept, left))
    (hrest : Ends rest) : unsigned? sign (text ++ rest) = some (kept, left ++ rest) := by
  -- each of the three parts leaves to the next what it would have left without the rest
  obtain ⟨whole, text₁, places, text₂, exponent, hwhole, hplaces, hexponent, hkept⟩ :=
    unsigned?_eq_some.mp h
  exact unsigned?_eq_some.mpr ⟨whole, _, places, _, exponent, whole?_append hwhole hrest,
    fraction?_append hplaces hrest, exponent?_append hexponent hrest, hkept⟩

/-- A number starts with a minus or a digit. -/
theorem number?_head (h : number? text = some (kept, left)) :
    ∃ c more, text = c :: more ∧ (c = '-' ∨ c.isDigit = true) := by
  cases text with
  | nil => exact absurd h (by simp [number?, whole?])
  | cons c more =>
    refine ⟨c, more, rfl, Decidable.or_iff_not_imp_left.mpr fun hminus => ?_⟩
    rw [number?_of_ne_minus (by simpa using hminus)] at h
    obtain ⟨whole, _, _, _, _, hwhole, -⟩ := unsigned?_eq_some.mp h
    -- the whole part is a zero or starts with another digit
    by_cases hzero : c = '0'
    · exact hzero ▸ rfl
    · rw [whole?_of_ne_zero hzero] at hwhole
      cases hc : c.isDigit with
      | true => rfl
      | false => exact absurd hwhole (by simp [hc])

/-- **What is read of a number does not depend on what follows** if that does not go on with it. -/
theorem number?_append (h : number? text = some (kept, left)) (hrest : Ends rest) :
    number? (text ++ rest) = some (kept, left ++ rest) := by
  obtain ⟨c, more, rfl, -⟩ := number?_head h
  by_cases hminus : c = '-'
  · subst hminus
    rw [number?_minus] at h
    rw [List.cons_append, number?_minus]
    exact unsigned?_append h hrest
  · rw [number?_of_ne_minus (by simpa using hminus)] at h
    rw [number?_of_ne_minus (by simpa using hminus)]
    exact unsigned?_append h hrest

/-! ### The text of a decimal -/

/-- The places of a decimal as they stand behind its whole part. -/
theorem fraction?_places {places : List Char} (hdigits : ∀ c ∈ places, c.isDigit = true)
    (hne : places ≠ []) : fraction? ('.' :: places) = some ('.' :: places, []) := by
  have htaken : places.takeWhile Char.isDigit = places := List.takeWhile_eq_self_iff.mpr hdigits
  have hleft : places.dropWhile Char.isDigit = [] := List.dropWhile_eq_nil_iff.mpr hdigits
  simp [fraction?, htaken, hleft, hne]

/-- Digits are the whole part of a number if no zero stands before another one. -/
theorem whole?_digits {whole : List Char} (hdigits : ∀ c ∈ whole, c.isDigit = true) (hne : whole ≠ [])
    (hleading : ∀ more, whole = '0' :: more → more = []) (hrest : ∀ c ∈ rest.head?, c.isDigit = false) :
    whole? (whole ++ rest) = some (whole, rest) := by
  obtain ⟨c, more, rfl⟩ := List.exists_cons_of_ne_nil hne
  by_cases hzero : c = '0'
  · subst hzero
    obtain rfl := hleading more rfl
    exact whole?_zero hrest
  · rw [List.cons_append, whole?_of_ne_zero hzero, ← List.cons_append, takeWhile_append_eq hdigits hrest,
      dropWhile_append_eq hdigits hrest]
    rfl

/-- The magnitude of a decimal is written as a number without a sign. -/
theorem unsigned?_toChars {a : Decimal} (h : a.negative = false) (sign : List Char) :
    unsigned? sign a.toChars = some (sign ++ a.toChars, []) := by
  obtain ⟨whole, places, hchars, hdigits, hlength, -, hne⟩ := Decimal.exists_toChars h
  rw [List.forall_mem_append] at hdigits
  -- what stands behind the whole part: a point with the places, or nothing
  let tail := if a.scale = 0 then [] else '.' :: places
  have htail : (∀ c ∈ tail.head?, c.isDigit = false) ∧ fraction? tail = some (tail, []) := by
    by_cases hscale : a.scale = 0
    · have hnone : tail = [] := if_pos hscale
      rw [hnone]
      exact ⟨by simp, rfl⟩
    · have hpoint : tail = '.' :: places := if_neg hscale
      have hplaces : places ≠ [] := by
        rintro rfl
        exact hscale hlength.symm
      rw [hpoint]
      exact ⟨by simp, fraction?_places hdigits.2 hplaces⟩
  have hleading : ∀ more, whole = '0' :: more → more = [] := by
    rintro more rfl
    -- a leading zero is the only digit, since behind it comes no other
    have hsingle := Decimal.leading_toChars h hchars
    cases more with
    | nil => rfl
    | cons d more => exact absurd (hdigits.1 d (by simp)) (by simp [hsingle d rfl])
  have hwhole : whole? (whole ++ tail) = some (whole, tail) :=
    whole?_digits hdigits.1 hne hleading htail.1
  rw [hchars]
  exact unsigned?_eq_some.mpr ⟨_, _, _, _, [], hwhole, htail.2, rfl, by simp [tail]⟩

/-- **All of the text of a decimal is a number.** -/
theorem number?_toChars (a : Decimal) : number? a.toChars = some (a.toChars, []) := by
  rw [Decimal.toChars_eq_abs]
  cases hnegative : a.negative with
  | true => exact unsigned?_toChars rfl ['-']
  | false =>
    obtain ⟨whole, places, hchars, hdigits, -, -, hne⟩ := Decimal.exists_toChars (a := a.abs) rfl
    obtain ⟨c, more, rfl⟩ := List.exists_cons_of_ne_nil hne
    rw [if_neg Bool.false_ne_true, List.nil_append, number?_of_ne_minus]
    · exact unsigned?_toChars rfl []
    · rintro _ hc rfl
      rw [hchars] at hc
      obtain rfl := Option.some.inj hc
      exact absurd (hdigits '-' List.mem_cons_self) (by decide)

theorem ofNumber?_toText (a : Decimal) : ofNumber? a.toText = some (number a.toText) := by
  rw [ofNumber?, Decimal.toText, String.toList_ofList, number?_toChars]

end Formulary.Document
