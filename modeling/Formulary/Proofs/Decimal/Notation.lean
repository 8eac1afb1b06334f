import Formulary.Decimal.Printer
import Formulary.Decimal.Reader

/-!
# Decimals are read as they are written

The text of a decimal is read as what its parts make, trailing zeros included (`ofChars?_toChars_eq`). That
is the decimal itself unless it is a zero with a minus, which loses it (`ofChars?_toChars`). The digits before
the point and behind it are those of the coefficient, with zeros in front so that there is one before the
point, and there are as many behind it as the scale says. What has been read of the digits is never more than
the coefficient, so it fits at every step. The shortest decimal of a number is no zero with a minus
(`negative_normalize`).
-/

namespace Formulary

namespace Text

theorem isDigit_of_mem_padded {width n : Nat} {c : Char} (h : c ∈ padded '0' width n) :
    c.isDigit = true := by
  rcases List.mem_append.mp h with hfill | hdigit
  · rw [(List.mem_replicate.mp hfill).2]
    rfl
  · exact Nat.isDigit_of_mem_toDigits (by decide) (by decide) hdigit

theorem le_length_padded (width n : Nat) : width ≤ (padded '0' width n).length := by
  simp only [padded, List.length_append, List.length_replicate]
  omega

theorem length_padded {width n : Nat} (h : (Nat.toDigits 10 n).length ≤ width) :
    (padded '0' width n).length = width := by
  rw [padded, List.length_append, List.length_replicate]
  exact Nat.sub_add_cancel h

theorem padded_eq_toDigits {width n : Nat} (h : width ≤ (Nat.toDigits 10 n).length) :
    padded '0' width n = Nat.toDigits 10 n := by
  rw [padded, Nat.sub_eq_zero_of_le h]
  rfl

theorem ofDigitChars_padded (width n : Nat) : Nat.ofDigitChars 10 (padded '0' width n) 0 = n := by
  rw [padded, Nat.ofDigitChars_append, Nat.ofDigitChars_replicate_zero, Nat.mul_zero,
    Nat.ofDigitChars_toDigits (by decide) (by decide)]

/-- The digits of a number other than zero do not start with a zero. -/
theorem head?_toDigits_ne {n : Nat} (hn : n ≠ 0) : (Nat.toDigits 10 n).head? ≠ some '0' := by
  induction n using Nat.strongRecOn with
  | ind n ih =>
    rcases Nat.lt_or_ge n 10 with hsmall | hlarge
    · have hdigit : ∀ m < 10, m ≠ 0 → Nat.digitChar m ≠ '0' := by decide
      rw [Nat.toDigits_of_lt_base hsmall]
      simpa using hdigit n hsmall hn
    · -- the first digit of a larger number is that of a tenth of it
      have hfront := ih (n / 10) (Nat.div_lt_self (Nat.pos_of_ne_zero hn) (by decide))
        (Nat.div_ne_zero_iff.mpr ⟨by decide, hlarge⟩)
      rw [Nat.toDigits_of_base_le (by decide) hlarge, List.head?_append]
      rwa [Option.or_of_isSome (List.isSome_head?.mpr Nat.toDigits_ne_nil)]

theorem le_ofDigitChars (digits : List Char) (n : Nat) : n ≤ Nat.ofDigitChars 10 digits n := by
  induction digits generalizing n with
  | nil => exact Nat.le_refl n
  | cons c rest ih =>
    rw [Nat.ofDigitChars_cons]
    have := ih (10 * n + (c.toNat - '0'.toNat))
    omega

end Text

namespace Decimal

namespace Reading

/-- What has been read when digits have been read on. -/
def afterDigits (r : Reading) (digits : List Char) : Reading where
  negative := r.negative
  coefficient := Nat.ofDigitChars 10 digits r.coefficient
  scale := if r.point then r.scale + digits.length else 0
  point := r.point
  started := r.started || !digits.isEmpty

theorem run_digit {r : Reading} {c : Char} {rest : List Char} (hc : c.isDigit = true)
    (hfull : r.isFull = false) (hlimit : 10 * r.coefficient + (c.toNat - '0'.toNat) < limit) :
    r.run (c :: rest) = (r.afterDigits [c]).run rest := by
  have hpoint : c ≠ '.' := by
    rintro rfl
    exact absurd hc (by decide)
  have hunderscore : c ≠ '_' := by
    rintro rfl
    exact absurd hc (by decide)
  have hdigit : Text.digit? c = some (c.toNat - '0'.toNat) := by rw [Text.digit?, if_pos hc]
  rw [Nat.mul_comm] at hlimit
  rw [run, if_neg (by simp [hfull]), if_neg hpoint, if_neg hunderscore, hdigit]
  simp only [if_pos hlimit, afterDigits, Nat.ofDigitChars_cons, Nat.ofDigitChars_nil,
    List.length_singleton, Nat.mul_comm 10, List.isEmpty_cons, Bool.not_false, Bool.or_true]

theorem afterDigits_cons (r : Reading) (c : Char) (rest : List Char) :
    r.afterDigits (c :: rest) = (r.afterDigits [c]).afterDigits rest := by
  simp only [afterDigits, Nat.ofDigitChars_cons, Nat.ofDigitChars_nil, List.length_cons,
    List.length_nil, List.isEmpty_cons, Bool.not_false, Bool.or_true, Bool.true_or]
  cases r.point with
  | true =>
    have hscale : r.scale + (rest.length + 1) = r.scale + (0 + 1) + rest.length := by omega
    rw [if_pos rfl, if_pos rfl, if_pos rfl, hscale]
  | false => rfl

/-- Digits are read on if they fit. -/
theorem run_digits {r : Reading} {digits : List Char} (hdigits : ∀ c ∈ digits, c.isDigit = true)
    (hlimit : Nat.ofDigitChars 10 digits r.coefficient < limit)
    (hpoint : r.point = true → r.scale + digits.length ≤ maxScale)
    (hwhole : r.point = false → r.scale = 0) (more : List Char) :
    r.run (digits ++ more) = (r.afterDigits digits).run more := by
  induction digits generalizing r with
  | nil =>
    have hsame : r.afterDigits [] = r := by
      cases r with
      | mk negative coefficient scale point started =>
        cases point with
        | true => simp [afterDigits]
        | false => simp [afterDigits, show scale = 0 from hwhole rfl]
    rw [hsame]
    rfl
  | cons c rest ih =>
    obtain ⟨hc, hrest⟩ := List.forall_mem_cons.mp hdigits
    rw [Nat.ofDigitChars_cons] at hlimit
    -- behind the point there is room for one more digit at least, before it room does not count
    have hfull : r.isFull = false := by
      rw [isFull, Bool.and_eq_false_iff]
      cases hp : r.point with
      | true =>
        have := hpoint hp
        rw [List.length_cons] at this
        exact Or.inr (decide_eq_false (by omega))
      | false => exact Or.inl rfl
    -- digits only make the number larger, so what it is in the end bounds it on the way
    have hfirst := Nat.lt_of_le_of_lt (Text.le_ofDigitChars rest _) hlimit
    rw [List.cons_append, run_digit hc hfull hfirst, afterDigits_cons r c rest]
    refine ih (r := r.afterDigits [c]) hrest hlimit (fun hp => ?_) fun hp => ?_
    · have hscale : (r.afterDigits [c]).scale = r.scale + 1 := if_pos hp
      have := hpoint hp
      rw [List.length_cons] at this
      omega
    · exact if_neg (by simpa [afterDigits] using hp)

/-- The first point is passed. -/
theorem run_point {r : Reading} (hpoint : r.point = false) (rest : List Char) :
    r.run ('.' :: rest) = run { r with point := true } rest := by
  rw [run, if_neg (by simp [isFull, hpoint]), if_pos rfl, if_neg (by simp [hpoint])]

/-- What has been read is made a decimal. -/
theorem run_nil {r : Reading} (hstarted : r.started = true) :
    r.run [] = make? r.negative r.coefficient r.scale := by
  rw [run, close, if_pos hstarted]

end Reading

/-- The text of a decimal without a minus: digits before the point, and as many behind it as the scale
says. -/
theorem exists_toChars {a : Decimal} (h : a.negative = false) :
    ∃ whole places, a.toChars = whole ++ (if a.scale = 0 then [] else '.' :: places) ∧
      (∀ c ∈ whole ++ places, c.isDigit = true) ∧ places.length = a.scale ∧
      Nat.ofDigitChars 10 (whole ++ places) 0 = a.coefficient ∧ whole ≠ [] := by
  have hlength := Text.le_length_padded (a.scale + 1) a.coefficient
  let digits := Text.padded '0' (a.scale + 1) a.coefficient
  refine ⟨digits.take (digits.length - a.scale), digits.drop (digits.length - a.scale), ?_, ?_, ?_, ?_, ?_⟩
  · rw [toChars, h]
    rfl
  · rw [List.take_append_drop]
    exact fun c hc => Text.isDigit_of_mem_padded hc
  · rw [List.length_drop]
    exact Nat.sub_sub_self (Nat.le_of_succ_le hlength)
  · rw [List.take_append_drop, Text.ofDigitChars_padded]
  · -- zeros in front see to it that one digit is left before the point
    refine List.ne_nil_of_length_pos ?_
    rw [List.length_take]
    change a.scale + 1 ≤ digits.length at hlength
    omega

/-- No zero stands before another digit. -/
theorem leading_toChars {a : Decimal} (h : a.negative = false) {more : List Char}
    (hzero : a.toChars = '0' :: more) : ∀ c ∈ more.head?, c.isDigit = false := by
  rw [toChars, h, if_neg Bool.false_ne_true, List.nil_append] at hzero
  by_cases hpadded : (Nat.toDigits 10 a.coefficient).length < a.scale + 1
  · -- the zeros in front are just enough for one digit before the point
    obtain ⟨k, hk⟩ := Nat.exists_eq_add_of_lt hpadded
    have hlength := Text.length_padded (Nat.le_of_lt hpadded)
    have hwhole : (Text.padded '0' (a.scale + 1) a.coefficient).take 1 = ['0'] := by
      rw [Text.padded, hk, Nat.add_assoc, Nat.add_sub_cancel_left, List.replicate_succ]
      rfl
    rw [hlength, Nat.add_sub_cancel_left, hwhole] at hzero
    obtain rfl := (List.cons.inj hzero).2
    intro c hc
    split at hc
    · exact absurd hc (by simp)
    · obtain rfl := Option.some.inj hc
      rfl
  · rw [Text.padded_eq_toDigits (Nat.not_lt.mp hpadded)] at hzero
    by_cases hcoefficient : a.coefficient = 0
    · -- the digit of zero is the only one, and no place follows it
      rw [hcoefficient] at hpadded hzero
      have hscale : a.scale = 0 := by simpa using hpadded
      obtain rfl : [] = more := by simpa [hscale] using hzero
      simp
    · -- otherwise the first digit is that of the coefficient
      have hwhole : 0 < (Nat.toDigits 10 a.coefficient).length - a.scale := by omega
      have hfirst := Text.head?_toDigits_ne hcoefficient
      obtain ⟨c, rest, hcons⟩ := List.exists_cons_of_ne_nil (@Nat.toDigits_ne_nil a.coefficient 10)
      rw [hcons] at hwhole hzero hfirst
      rw [List.take_cons hwhole] at hzero
      exact absurd (congrArg some (List.cons.inj hzero).1) hfirst

/-- A minus stands in front of the magnitude. -/
theorem toChars_eq_abs (a : Decimal) :
    a.toChars = (if a.negative then ['-'] else []) ++ a.abs.toChars := by
  rw [toChars, toChars, List.append_assoc]
  rfl

/-- The text of the magnitude is read as its digits and places, with the sign that has been read. -/
theorem Reading.run_toChars_abs (negative : Bool) (a : Decimal) :
    Reading.run { negative } a.abs.toChars = make? negative a.coefficient a.scale := by
  obtain ⟨whole, places, hchars, hdigits, hlength, hvalue, hne⟩ := exists_toChars (a := a.abs) rfl
  change places.length = a.scale at hlength
  change Nat.ofDigitChars 10 (whole ++ places) 0 = a.coefficient at hvalue
  change _ = whole ++ (if a.scale = 0 then [] else '.' :: places) at hchars
  rw [List.forall_mem_append] at hdigits
  rw [Nat.ofDigitChars_append] at hvalue
  -- the digits before the point are no more than all digits, which fit
  have hwhole : Nat.ofDigitChars 10 whole 0 < limit := by
    refine Nat.lt_of_le_of_lt (Text.le_ofDigitChars places _) ?_
    rw [hvalue]
    exact a.coefficient_lt
  rw [hchars, Reading.run_digits hdigits.1 hwhole (by simp) fun _ => rfl]
  have hstarted : whole.isEmpty = false := by simpa using hne
  by_cases hscale : a.scale = 0
  · obtain rfl := List.length_eq_zero_iff.mp (hlength.trans hscale)
    rw [if_pos hscale, Reading.run_nil (by simp [Reading.afterDigits, hstarted]), hscale]
    exact congrArg (make? negative · 0) hvalue
  · rw [if_neg hscale, Reading.run_point rfl]
    -- the places are read on as digits of the same number, counted from the point on
    have hplaces := Reading.run_digits
      (r := { Reading.afterDigits { negative } whole with point := true }) hdigits.2
      (Nat.lt_of_le_of_lt (Nat.le_of_eq hvalue) a.coefficient_lt) (fun _ => ?_) (by simp) []
    · rw [List.append_nil] at hplaces
      rw [hplaces, Reading.run_nil (by simp [Reading.afterDigits, hstarted])]
      have hread : (Reading.afterDigits { negative } whole).scale + places.length = a.scale := by
        rw [hlength]
        exact Nat.zero_add _
      exact (congrArg (make? negative · _) hvalue).trans (congrArg (make? negative a.coefficient) hread)
    · simpa [Reading.afterDigits, hlength] using a.scale_le

/-- **What is written of a decimal is read as its digits and places**, with its sign unless it is zero. -/
theorem ofChars?_toChars_eq (a : Decimal) :
    ofChars? a.toChars = make? a.negative a.coefficient a.scale := by
  have hread := Reading.run_toChars_abs a.negative a
  rw [toChars_eq_abs]
  cases hnegative : a.negative with
  | true =>
    rw [hnegative] at hread
    exact hread
  | false =>
    rw [hnegative] at hread
    obtain ⟨whole, places, hchars, hdigits, -, -, hne⟩ := exists_toChars (a := a.abs) rfl
    obtain ⟨c, rest, rfl⟩ := List.exists_cons_of_ne_nil hne
    have hc := hdigits c List.mem_cons_self
    rw [hchars, List.cons_append] at hread ⊢
    -- a digit is no sign
    rw [if_neg Bool.false_ne_true, List.nil_append, ofChars?.eq_3 _ ?_ ?_]
    · exact hread
    · rintro rest' heq
      obtain rfl := (List.cons.inj heq).1
      exact absurd hc (by decide)
    · rintro rest' heq
      obtain rfl := (List.cons.inj heq).1
      exact absurd hc (by decide)

/-- The parts of a decimal make that decimal, unless it is a zero with a minus. -/
theorem make?_parts {a : Decimal} (ha : a.coefficient = 0 → a.negative = false) :
    make? a.negative a.coefficient a.scale = some a := by
  have hsign : (a.negative && a.coefficient != 0) = a.negative := by
    by_cases hzero : a.coefficient = 0
    · rw [ha hzero, Bool.false_and]
    · simp [hzero]
  rw [make?, dif_pos ⟨a.coefficient_lt, a.scale_le⟩, hsign]

/-- **What is written of a decimal is read as that decimal**, unless it is a zero with a minus. -/
theorem ofChars?_toChars {a : Decimal} (ha : a.coefficient = 0 → a.negative = false) :
    ofChars? a.toChars = some a :=
  (ofChars?_toChars_eq a).trans (make?_parts ha)

/-! ### The shortest decimal -/

theorem stripZeros_fst_ne_zero {n : Nat} (hn : n ≠ 0) (s : Nat) : (stripZeros n s).1 ≠ 0 := by
  induction s generalizing n with
  | zero => exact hn
  | succ s ih =>
    rw [stripZeros]
    split
    · next hzero => exact ih fun hquotient => hn (by omega)
    · exact hn

/-- The shortest decimal of zero has no minus. -/
theorem negative_normalize {a : Decimal} (h : a.normalize.coefficient = 0) : a.normalize.negative = false := by
  rw [normalize] at h ⊢
  split at h
  · next hzero => rw [if_pos hzero]; rfl
  · next hzero => exact absurd h (stripZeros_fst_ne_zero (by simpa [isZero] using hzero) a.scale)

/-- The shortest decimal is read as it is written. -/
theorem ofNumeral?_toText_normalize (a : Decimal) :
    ofNumeral? a.normalize.toText.toList = some a.normalize := by
  rw [ofNumeral?, toText, String.toList_ofList, ofChars?_toChars negative_normalize]
  rfl

end Decimal

end Formulary
