import Formulary.Calendar.Pattern
import Formulary.Calendar.Reader
import Formulary.Proofs.Calendar.Civil
import Formulary.Proofs.Decimal.Notation
import Formulary.Proofs.Lexeme.Writing
import Formulary.Proofs.Text.Spans

/-!
# Date-times are read as they are written, to the second

The text of a date-time has no fraction of a second. It is read as the start of the second
(`DateTime.ofText?_toText`), which is the date-time itself exactly if it has no fraction
(`DateTime.wholeSecond_eq_self_iff`). This holds of every year, those with a sign and more than four digits
too, and of leap seconds, which are written and read as second 60.
-/

namespace Formulary

/-! ### Digits at the front of a text -/

namespace Text

theorem digitsValue_eq (digits : List Char) : digitsValue digits = Nat.ofDigitChars 10 digits 0 := by
  rw [digitsValue, Nat.ofDigitChars]
  simp only [Nat.mul_comm]

/-- Digits that something else follows are split off. -/
theorem number?_append {least most : Nat} {digits rest : List Char}
    (hdigits : ∀ c ∈ digits, c.isDigit = true) (hleast : least ≤ digits.length)
    (hmost : digits.length ≤ most) (hrest : ∀ c ∈ rest.head?, c.isDigit = false) :
    number? least most (digits ++ rest) = some (Nat.ofDigitChars 10 digits 0, rest) := by
  have htaken : ((digits ++ rest).take most).takeWhile Char.isDigit = digits := by
    rw [List.take_append, List.take_of_length_le hmost]
    refine takeWhile_append_eq hdigits fun c hc => ?_
    rw [List.head?_take] at hc
    split at hc
    · exact absurd hc (by simp)
    · exact hrest c hc
  simp only [number?, htaken, if_neg (Nat.not_lt_of_le hleast), List.drop_left, digitsValue_eq]

theorem trim_eq_self_of_forall {text : List Char} (h : ∀ c ∈ text, isBlank c = false) :
    trim text = text :=
  trim_eq_self (fun c hc => h c (List.mem_of_mem_head? hc)) fun c hc => h c (List.mem_of_getLast? hc)

theorem trimStart_eq_self {text : List Char} (h : ∀ c ∈ text.head?, isBlank c = false) :
    trimStart text = text :=
  dropWhile_eq_self h

theorem afterChar?_cons (c : Char) (rest : List Char) : afterChar? c (c :: rest) = some rest :=
  if_pos rfl

end Text

namespace DateField

/-- Two digits are written of a number below 100, and read as it. -/
theorem twoDigits_spec {n : Nat} (h : n < 100) : (twoDigits .zeros n).length = 2 ∧
    (∀ c ∈ twoDigits .zeros n, c.isDigit = true) ∧ Nat.ofDigitChars 10 (twoDigits .zeros n) 0 = n := by
  -- what the two digits are is decided digit by digit
  have hdigit : ∀ d < 10, (Nat.digitChar d).isDigit = true ∧
      (Nat.digitChar d).toNat - '0'.toNat = d ∧ Char.ofNat ('0'.toNat + d) = Nat.digitChar d := by decide
  obtain ⟨htens, htensValue, htensChar⟩ := hdigit (n / 10) (by omega)
  obtain ⟨hones, honesValue, -⟩ := hdigit (n % 10) (by omega)
  have hdigits : twoDigits .zeros n = [Nat.digitChar (n / 10), Nat.digitChar (n % 10)] := by
    simp only [twoDigits, htensChar]
    split
    · next hzero => rw [hzero]; rfl
    · rfl
  rw [hdigits]
  refine ⟨rfl, by simp [htens, hones], ?_⟩
  rw [Nat.ofDigitChars_cons, Nat.ofDigitChars_cons, Nat.ofDigitChars_nil, htensValue, honesValue]
  omega

theorem isBlank_of_mem_twoDigits {n : Nat} (h : n < 100) :
    ∀ c ∈ twoDigits .zeros n, Text.isBlank c = false :=
  fun c hc => Lexeme.isBlank_of_isDigit ((twoDigits_spec h).2.1 c hc)

theorem field?_twoDigits {n : Nat} (h : n < 100) {rest : List Char}
    (hrest : ∀ c ∈ rest.head?, c.isDigit = false) :
    DateTime.field? 2 (twoDigits .zeros n ++ rest) = some (n, rest) := by
  obtain ⟨hlength, hdigits, hvalue⟩ := twoDigits_spec h
  -- the reader passes white space before a part, and here there is none
  have hfirst : ∀ c ∈ (twoDigits .zeros n ++ rest).head?, Text.isBlank c = false := by
    intro c hc
    have hne : twoDigits .zeros n ≠ [] := List.ne_nil_of_length_pos (by omega)
    rw [List.head?_append, Option.or_of_isSome (List.isSome_head?.mpr hne)] at hc
    exact isBlank_of_mem_twoDigits h c (List.mem_of_mem_head? hc)
  rw [DateTime.field?, Text.trimStart_eq_self hfirst,
    Text.number?_append hdigits (by omega) (by omega) hrest, hvalue]

/-- A year is written as four digits, or as a sign and four or more. -/
theorem yearDigits_eq (year : Int) : yearDigits .zeros year =
    if 0 ≤ year ∧ year ≤ 9999 then Text.padded '0' 4 year.natAbs
    else (if year < 0 then '-' else '+') :: Text.padded '0' 4 year.natAbs := by
  rw [yearDigits]
  split
  · next h =>
    rw [signedDigits, if_neg (by omega)]
    rfl
  · next h =>
    rw [signedDigits]
    split <;> rfl

theorem isBlank_of_mem_yearDigits {year : Int} :
    ∀ c ∈ yearDigits .zeros year, Text.isBlank c = false := by
  have hdigits : ∀ c ∈ Text.padded '0' 4 year.natAbs, Text.isBlank c = false :=
    fun c hc => Lexeme.isBlank_of_isDigit (Text.isDigit_of_mem_padded hc)
  rw [yearDigits_eq]
  split
  · exact hdigits
  · refine List.forall_mem_cons.mpr ⟨?_, hdigits⟩
    split <;> decide

end DateField

/-! ### The parts have two digits -/

theorem Date.month_lt (d : Date) : d.month < 100 :=
  Nat.lt_of_le_of_lt (Civil.ofNumber_spec d.number).2.2.1 (by decide)

theorem Date.day_lt (d : Date) : d.day < 100 := by
  obtain ⟨-, -, -, hday⟩ := (Civil.ofNumber_spec d.number).2
  exact Nat.lt_of_le_of_lt (Nat.le_trans hday (Civil.daysInMonth_bounds _ _).2) (by decide)

theorem TimeOfDay.parts_lt (t : TimeOfDay) : t.hour < 100 ∧ t.minute < 100 ∧ t.secondOfMinute < 100 := by
  have hsecond := t.second_lt
  have hnanosecond := t.nanosecond_lt
  rw [hour, minute, secondOfMinute]
  omega

/-! ### Reading the parts -/

namespace DateTime

/-- A year is read as it is written. -/
theorem year?_yearDigits (year : Int) (rest : List Char) :
    year? (DateField.yearDigits .zeros year ++ '-' :: rest) = some (year, '-' :: rest) := by
  have hdigits : ∀ c ∈ Text.padded '0' 4 year.natAbs, c.isDigit = true :=
    fun c => Text.isDigit_of_mem_padded
  have hleast := Text.le_length_padded 4 year.natAbs
  have hrest : ∀ c ∈ ('-' :: rest).head?, c.isDigit = false := by
    rintro _ ⟨⟩
    rfl
  have hread {most : Nat} (hmost : (Text.padded '0' 4 year.natAbs).length ≤ most) :
      Text.number? 1 most (Text.padded '0' 4 year.natAbs ++ '-' :: rest) =
        some (year.natAbs, '-' :: rest) := by
    rw [Text.number?_append hdigits (by omega) hmost hrest, Text.ofDigitChars_padded]
  rw [DateField.yearDigits_eq]
  split
  · next hshort =>
    -- the first digit is no sign
    obtain ⟨c, more, hcons⟩ := List.exists_cons_of_length_pos (Nat.lt_of_lt_of_le (by decide) hleast)
    have hc : c.isDigit = true := hdigits c (hcons ▸ List.mem_cons_self)
    have hlength : (Text.padded '0' 4 year.natAbs).length = 4 :=
      Text.length_padded ((Nat.length_toDigits_le_iff (by decide) (by decide)).mpr (by omega))
    rw [hcons] at hread hlength
    rw [hcons, year?, Text.trimStart_eq_self (by rintro _ ⟨⟩; exact Lexeme.isBlank_of_isDigit hc)]
    split
    · next heq =>
      obtain rfl := (List.cons.inj heq).1
      exact absurd hc (by decide)
    · next heq =>
      obtain rfl := (List.cons.inj heq).1
      exact absurd hc (by decide)
    · simp only [hread (Nat.le_of_eq hlength), Option.map_some, Option.some.injEq, Prod.mk.injEq,
        and_true]
      omega
  · next hlong =>
    -- behind a sign as many digits as there are may be read
    have hmost : (Text.padded '0' 4 year.natAbs).length ≤
        (Text.padded '0' 4 year.natAbs ++ '-' :: rest).length := by
      rw [List.length_append]
      exact Nat.le_add_right _ _
    rcases Int.lt_or_le year 0 with hneg | hnonneg
    · rw [if_pos hneg, List.cons_append, year?, Text.trimStart_eq_self (by rintro _ ⟨⟩; decide)]
      simp only [hread hmost, Option.map_some, Option.some.injEq, Prod.mk.injEq, and_true]
      omega
    · rw [if_neg (Int.not_lt.mpr hnonneg), List.cons_append, year?,
        Text.trimStart_eq_self (by rintro _ ⟨⟩; decide)]
      simp only [hread hmost, Option.map_some, Option.some.injEq, Prod.mk.injEq, and_true]
      omega

/-- A date is read as it is written. -/
theorem date?_civil (d : Date) {rest : List Char} (hrest : ∀ c ∈ rest.head?, c.isDigit = false) :
    date? (DateField.yearDigits .zeros d.year ++ '-' :: (DateField.twoDigits .zeros d.month ++
      '-' :: (DateField.twoDigits .zeros d.day ++ rest))) = some (d, rest) := by
  have hhyphen (text : List Char) : ∀ c ∈ ('-' :: text).head?, c.isDigit = false := by
    rintro _ ⟨⟩
    rfl
  have hdate : Date.ofCivil? ⟨d.year, d.month, d.day⟩ = some d := Date.ofCivil?_civil d
  rw [date?, year?_yearDigits]
  simp only [Option.bind_eq_bind, Option.bind_some, Text.afterChar?_cons,
    DateField.field?_twoDigits d.month_lt (hhyphen _), DateField.field?_twoDigits d.day_lt hrest, hdate]
  rfl

end DateTime

namespace TimeOfDay

/-- The start of the second; that of a leap second stays in it. -/
def wholeSecond (t : TimeOfDay) : TimeOfDay where
  second := t.second
  nanosecond := t.nanosecond / 1000000000 * 1000000000
  second_lt := t.second_lt
  nanosecond_lt := Nat.lt_of_le_of_lt (Nat.div_mul_le_self _ _) t.nanosecond_lt
  leap h := t.leap (Nat.le_trans h (Nat.div_mul_le_self _ _))

theorem wholeSecond_eq_self_iff (t : TimeOfDay) : t.wholeSecond = t ↔ t.subsecond = 0 := by
  have heq : t.wholeSecond = t ↔ t.nanosecond / 1000000000 * 1000000000 = t.nanosecond := by
    cases t
    simp [wholeSecond]
  rw [heq, subsecond]
  omega

/-- A time is put together from its hour, minute and second, but for the fraction. -/
theorem ofParts?_parts (t : TimeOfDay) :
    ofParts? t.hour t.minute t.secondOfMinute 0 = some t.wholeSecond := by
  have hsecond := t.second_lt
  have hnanosecond := t.nanosecond_lt
  have hleap := t.leap
  have hfits : t.hour < 24 ∧ t.minute < 60 ∧ t.secondOfMinute ≤ 60 ∧ 0 < 1000000000 := by
    rw [hour, minute, secondOfMinute]
    omega
  rw [ofParts?, dif_pos hfits]
  split
  · -- a leap second is the second before it, with its nanoseconds going on
    next hsixty =>
    rw [secondOfMinute] at hsixty
    simp only [wholeSecond, hour, minute, Option.some.injEq, TimeOfDay.mk.injEq]
    omega
  · next hsixty =>
    rw [secondOfMinute] at hsixty
    simp only [wholeSecond, hour, minute, secondOfMinute, Option.some.injEq, TimeOfDay.mk.injEq]
    omega

end TimeOfDay

namespace DateTime

/-- A time is read as it is written. -/
theorem time?_parts (t : TimeOfDay) :
    time? (DateField.twoDigits .zeros t.hour ++ ':' :: (DateField.twoDigits .zeros t.minute ++
      ':' :: DateField.twoDigits .zeros t.secondOfMinute)) = some (t.wholeSecond, []) := by
  have hcolon (text : List Char) : ∀ c ∈ (':' :: text).head?, c.isDigit = false := by
    rintro _ ⟨⟩
    rfl
  obtain ⟨hhour, hminute, hsecond⟩ := t.parts_lt
  have hlast := @DateField.field?_twoDigits _ hsecond [] (by simp)
  rw [List.append_nil] at hlast
  simp only [time?, hourMinute?, Option.bind_eq_bind, Option.bind_some, Text.afterChar?_cons,
    DateField.field?_twoDigits hhour (hcolon _), DateField.field?_twoDigits hminute (hcolon _), hlast,
    Option.pure_def, fraction?, TimeOfDay.ofParts?_parts]

/-- The start of the second. -/
def wholeSecond (d : DateTime) : DateTime := { d with time := d.time.wholeSecond }

theorem wholeSecond_eq_self_iff (d : DateTime) : d.wholeSecond = d ↔ d.time.subsecond = 0 := by
  rw [← TimeOfDay.wholeSecond_eq_self_iff]
  cases d
  simp [wholeSecond]

/-- **A date-time is read as it is written**, to the second. -/
theorem ofText?_toText (d : DateTime) : ofText? d.toText = some d.wholeSecond := by
  -- each part is read up to the character behind it, which is no digit
  have hletter (text : List Char) : ∀ c ∈ ('T' :: text).head?, c.isDigit = false := by
    rintro _ ⟨⟩
    rfl
  have htext : d.toText.toList = DateField.yearDigits .zeros d.date.year ++
      '-' :: (DateField.twoDigits .zeros d.date.month ++ '-' :: (DateField.twoDigits .zeros d.date.day ++
        'T' :: (DateField.twoDigits .zeros d.time.hour ++ ':' :: (DateField.twoDigits .zeros d.time.minute ++
          ':' :: DateField.twoDigits .zeros d.time.secondOfMinute)))) := by
    rw [toText, String.toList_ofList]
    simp only [List.append_assoc, List.cons_append]
  have hseconds : ofSeconds? d.toText.toList = some d.wholeSecond := by
    rw [htext, ofSeconds?, date?_civil d.date (hletter _)]
    simp only [Option.bind_eq_bind, Option.bind_some, Text.afterChar?_cons, time?_parts, whole?]
    rfl
  -- no part is written with white space
  have htrim : Text.trim d.toText.toList = d.toText.toList := by
    refine Text.trim_eq_self_of_forall ?_
    obtain ⟨hhour, hminute, hsecond⟩ := d.time.parts_lt
    rw [htext]
    simp only [List.forall_mem_append, List.forall_mem_cons]
    exact ⟨DateField.isBlank_of_mem_yearDigits, by decide,
      DateField.isBlank_of_mem_twoDigits d.date.month_lt, by decide,
      DateField.isBlank_of_mem_twoDigits d.date.day_lt, by decide,
      DateField.isBlank_of_mem_twoDigits hhour, by decide,
      DateField.isBlank_of_mem_twoDigits hminute, by decide, DateField.isBlank_of_mem_twoDigits hsecond⟩
  rw [ofText?, htrim, ofChars?, hseconds]
  rfl

end DateTime

end Formulary
