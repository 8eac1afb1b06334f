import Formulary.Calendar.Date

/-!
# Days and their year, month and day

The year, month and day of a day exist, and the day is found from them again (`Date.ofCivil?_civil`). A year,
month and day that exist are those of the day that is found from them (`Date.civil_ofCivil?`).

Within four centuries a day is so many whole centuries, so many groups of four years, so many years and so
many days after 1 March (`Civil.exists_split`), where only the last year of a group has a day 365, and of the
groups that end a century only the last. The year is computed from the day without these parts. That it comes
out as they say is a matter of one division (`Civil.yearOfEra_eq`).

For the other direction it is enough that no two of what exists are the same day (`Civil.number_inj`). Years that
start in March are stretches of days, one behind the other, and within one of them month and day are counted
through (`Civil.exists_eq_ofMarch`).
-/

namespace Formulary

namespace Civil

/-- The parts of a day within four centuries: centuries, groups of four years, years and days. -/
structure Split (day century group year rest : Nat) : Prop where
  day_eq : day = 36524 * century + 1461 * group + 365 * year + rest
  century_le : century ≤ 3
  group_le : group ≤ 24
  year_le : year ≤ 3
  rest_le : rest ≤ 365
  /-- Only a year before a leap day has a last day. -/
  leap : rest = 365 → year = 3 ∧ (group = 24 → century = 3)

/-- Each day within four centuries has its parts. -/
theorem exists_split (day : Nat) (h : day < 146097) :
    ∃ century group year rest, Split day century group year rest := by
  -- the last day of the last century and of the last year of a group are no centuries and years more
  obtain ⟨century, ofCentury, hcentury, hday, hlong⟩ : ∃ century ofCentury, century ≤ 3 ∧
      day = 36524 * century + ofCentury ∧ (ofCentury < 36524 ∨ ofCentury = 36524 ∧ century = 3) :=
    ⟨min 3 (day / 36524), day - 36524 * min 3 (day / 36524), by omega, by omega, by omega⟩
  obtain ⟨group, ofGroup, hgroup, hlt⟩ : ∃ group ofGroup, ofCentury = 1461 * group + ofGroup ∧
      ofGroup < 1461 :=
    ⟨ofCentury / 1461, ofCentury % 1461, by omega, by omega⟩
  obtain ⟨year, rest, hyear, hrest, hleap⟩ : ∃ year rest, year ≤ 3 ∧ ofGroup = 365 * year + rest ∧
      (rest < 365 ∨ rest = 365 ∧ year = 3) :=
    ⟨min 3 (ofGroup / 365), ofGroup - 365 * min 3 (ofGroup / 365), by omega, by omega, by omega⟩
  exact ⟨century, group, year, rest, by omega, hcentury, by omega, hyear, by omega, by omega⟩

section Split

variable {day century group year rest : Nat} (h : Split day century group year rest)
include h

/-- The year of a day within four centuries. -/
theorem yearOfEra_eq :
    (day - day / 1460 + day / 36524 - day / 146096) / 365 = 100 * century + 4 * group + year := by
  obtain ⟨hday, hcentury, hgroup, hyear, hrest, hleap⟩ := h
  -- the quotients are the numbers of groups and of centuries, but for the days at their ends
  have hcenturies : day / 36524 - day / 146096 = century ∧ day / 146096 ≤ day / 36524 := by omega
  have hgroups : day / 1460 = 25 * century + group ∨
      day / 1460 = 25 * century + group + 1 ∧ 269 ≤ rest ∧ year = 3 := by omega
  omega

/-- The days before a year within four centuries. -/
theorem daysBefore_eq : 365 * (100 * century + 4 * group + year) +
    (100 * century + 4 * group + year) / 4 - (100 * century + 4 * group + year) / 100 =
      36524 * century + 1461 * group + 365 * year := by
  obtain ⟨-, -, hgroup, hyear, -, -⟩ := h
  omega

/-- A year that ends with a last day comes before one with a leap day. -/
theorem isLeapYear_of_rest (hrest : rest = 365) (era : Int) :
    isLeapYear (era * 400 + (100 * century + 4 * group + year : Nat) + 1) = true := by
  obtain ⟨-, hcentury, hgroup, -, -, hleap⟩ := h
  obtain ⟨rfl, hlast⟩ := hleap hrest
  simp only [isLeapYear, Bool.and_eq_true, Bool.or_eq_true, beq_iff_eq, bne_iff_ne]
  by_cases hend : group = 24
  · obtain rfl := hlast hend
    omega
  · omega

end Split

/-! ### Years that start in March -/

/-- The days before 1 March of a year of an era. -/
theorem daysBefore_era (era : Int) {year : Nat} (h : year < 400) :
    365 * (era * 400 + year) + (era * 400 + year) / 4 - (era * 400 + year) / 100 +
      (era * 400 + year) / 400 = 146097 * era + ((365 * year + year / 4 - year / 100 : Nat) : Int) := by
  have hfour : (era * 400 + year) / 4 = 100 * era + (year / 4 : Nat) := by omega
  have hcentury : (era * 400 + year) / 100 = 4 * era + (year / 100 : Nat) := by omega
  have hera : (era * 400 + year) / 400 = era := by omega
  rw [hfour, hcentury, hera]
  omega

/-- The month and day of a day of a year that starts in March, January and February being those of the next
year. -/
def ofMarch (year : Int) (dayOfYear : Nat) : Civil :=
  let month := (5 * dayOfYear + 2) / 153
  { year := if month < 10 then year else year + 1
    month := if month < 10 then month + 3 else month - 9
    day := dayOfYear - (153 * month + 2) / 5 + 1 }

theorem number_ofMarch (year : Int) {dayOfYear : Nat} (h : dayOfYear ≤ 365) :
    (ofMarch year dayOfYear).number =
      365 * year + year / 4 - year / 100 + year / 400 + dayOfYear := by
  have hfirst : (153 * ((5 * dayOfYear + 2) / 153) + 2) / 5 ≤ dayOfYear := by omega
  simp only [ofMarch, number, Nat.add_sub_cancel]
  by_cases hlate : (5 * dayOfYear + 2) / 153 < 10
  · simp only [if_pos hlate, Nat.add_sub_cancel]
    rw [if_neg (by omega), if_neg (by omega), Nat.add_sub_cancel' hfirst]
  · have hmonth : (5 * dayOfYear + 2) / 153 - 9 + 9 = (5 * dayOfYear + 2) / 153 := by omega
    simp only [if_neg hlate, Int.add_sub_cancel]
    rw [if_pos (by omega), if_pos (by omega), hmonth, Nat.add_sub_cancel' hfirst]

/-- A month is at least as long as in a common year, and no longer than 31 days. -/
theorem daysInMonth_bounds (year : Int) (month : Nat) :
    daysInMonth 1 month ≤ daysInMonth year month ∧ daysInMonth year month ≤ 31 := by
  have hcommon : isLeapYear 1 = false := by decide
  simp only [daysInMonth, hcommon]
  split
  · cases isLeapYear year <;> decide
  · split <;> decide

theorem exists_ofMarch (year : Int) {dayOfYear : Nat} (h : dayOfYear ≤ 365)
    (hleap : dayOfYear = 365 → isLeapYear (year + 1) = true) : (ofMarch year dayOfYear).Exists := by
  rcases Nat.lt_or_eq_of_le h with hlt | rfl
  · -- the months of such a year are twelve cases, the last one cut at 365 days
    have hlength : ∀ month < 12, min 365 ((153 * (month + 1) + 2) / 5) ≤
        (153 * month + 2) / 5 + daysInMonth 1 (if month < 10 then month + 3 else month - 9) := by decide
    have hmonth : (5 * dayOfYear + 2) / 153 < 12 := by omega
    have hday := hlength _ hmonth
    have hcommon := (daysInMonth_bounds (ofMarch year dayOfYear).year (ofMarch year dayOfYear).month).1
    simp only [Exists, ofMarch] at hcommon ⊢
    refine ⟨?_, ?_, by omega, ?_⟩
    · split <;> omega
    · split <;> omega
    · omega
  · -- the last day of a leap year is 29 February
    have hdays : daysInMonth (year + 1) 2 = 29 := by
      rw [daysInMonth, if_pos rfl, if_pos (hleap rfl)]
    obtain ⟨hpos, hmonth, hday⟩ : 1 ≤ (ofMarch 0 365).month ∧ (ofMarch 0 365).month ≤ 12 ∧
        1 ≤ (ofMarch 0 365).day := by decide
    exact ⟨hpos, hmonth, hday, Nat.le_of_eq hdays.symm⟩

/-- **The parts of a day exist, and are put together to the day again.** -/
theorem ofNumber_spec (n : Int) : (ofNumber n).number = n ∧ (ofNumber n).Exists := by
  obtain ⟨century, group, year, rest, hsplit⟩ := exists_split (n % 146097).toNat (by omega)
  have hday := hsplit.day_eq
  have hbefore := daysBefore_eq hsplit
  -- with the parts of the day known, the computation is that of a year that starts in March
  have hparts : ofNumber n =
      ofMarch (n / 146097 * 400 + (100 * century + 4 * group + year : Nat)) rest := by
    have hrest : (n % 146097).toNat - (36524 * century + 1461 * group + 365 * year) = rest := by omega
    rw [ofNumber]
    simp only [yearOfEra_eq hsplit, hbefore, hrest]
    rfl
  rw [hparts]
  constructor
  · have hyear : 100 * century + 4 * group + year < 400 := by
      have := hsplit.century_le
      have := hsplit.group_le
      have := hsplit.year_le
      omega
    rw [number_ofMarch _ hsplit.rest_le, daysBefore_era _ hyear, hbefore]
    omega
  · exact exists_ofMarch _ hsplit.rest_le fun hrest => isLeapYear_of_rest hsplit hrest _

/-! ### Different days -/

/-- The days before 1 March of a year. -/
def daysBefore (year : Int) : Int := 365 * year + year / 4 - year / 100 + year / 400

/-- A year that starts in March has a day more if it ends with a leap day. -/
theorem daysBefore_succ (year : Int) :
    daysBefore (year + 1) = daysBefore year + (if isLeapYear (year + 1) then 366 else 365) := by
  simp only [daysBefore, isLeapYear, Bool.and_eq_true, Bool.or_eq_true, beq_iff_eq, bne_iff_ne]
  split <;> omega

theorem daysBefore_mono {year later : Int} (h : year ≤ later) : daysBefore year ≤ daysBefore later := by
  simp only [daysBefore]
  omega

/-- A month is at most as long as in a leap year. -/
theorem daysInMonth_le (year : Int) (month : Nat) : daysInMonth year month ≤ daysInMonth 4 month := by
  have hleap : isLeapYear 4 = true := by decide
  simp only [daysInMonth, hleap]
  split
  · cases isLeapYear year <;> decide
  · exact Nat.le_refl _

/-- Month and day are counted through within a year that starts in March, up to the leap day. -/
theorem countsThrough : ∀ month < 12,
    ∀ before < daysInMonth 4 (if month < 10 then month + 3 else month - 9),
    (5 * ((153 * month + 2) / 5 + before) + 2) / 153 = month ∧ (153 * month + 2) / 5 + before ≤ 365 ∧
      ((153 * month + 2) / 5 + before = 365 → month = 11 ∧ before = 28) := by
  decide

/-- What exists is a day of a year that starts in March, the last one only before a leap day. -/
theorem exists_eq_ofMarch {c : Civil} (h : c.Exists) : ∃ year dayOfYear, dayOfYear ≤ 365 ∧
    (dayOfYear = 365 → isLeapYear (year + 1) = true) ∧ c = ofMarch year dayOfYear := by
  obtain ⟨year, month, day⟩ := c
  obtain ⟨hpos, hmonth, hday, hlast⟩ :
      1 ≤ month ∧ month ≤ 12 ∧ 1 ≤ day ∧ day ≤ daysInMonth year month := h
  have hlong := daysInMonth_le year month
  obtain ⟨before, rfl⟩ : ∃ before, day = before + 1 := Nat.exists_eq_add_of_le' hday
  -- January and February are the last two months of the year before
  rcases Nat.lt_or_ge 2 month with hlate | hearly
  · obtain ⟨m, rfl⟩ : ∃ m, month = m + 3 := Nat.exists_eq_add_of_le' hlate
    have hten : m < 10 := by omega
    obtain ⟨hcount, hle, hlastDay⟩ := countsThrough m (by omega) before (by rw [if_pos hten]; omega)
    refine ⟨year, _, hle, fun heq => ?_, ?_⟩
    · have := (hlastDay heq).1
      omega
    · simp only [ofMarch, hcount, if_pos hten, Nat.add_sub_cancel_left]
  · have hten : ¬month + 9 < 10 := by omega
    obtain ⟨hcount, hle, hlastDay⟩ := countsThrough (month + 9) (by omega) before
      (by rw [if_neg hten, Nat.add_sub_cancel]; omega)
    refine ⟨year - 1, _, hle, fun heq => ?_, ?_⟩
    · -- the last day is 29 February
      obtain ⟨hmonth, rfl⟩ := hlastDay heq
      obtain rfl : month = 2 := by omega
      rw [Int.sub_add_cancel]
      rw [daysInMonth, if_pos rfl] at hlast
      split at hlast
      · assumption
      · omega
    · simp only [ofMarch, hcount, if_neg hten, Nat.add_sub_cancel_left, Nat.add_sub_cancel,
        Int.sub_add_cancel]

/-- **No two of what exists are the same day.** -/
theorem number_inj {c c' : Civil} (h : c.Exists) (h' : c'.Exists) (hnumber : c.number = c'.number) :
    c = c' := by
  obtain ⟨year, day, hday, hleap, rfl⟩ := exists_eq_ofMarch h
  obtain ⟨year', day', hday', hleap', rfl⟩ := exists_eq_ofMarch h'
  rw [number_ofMarch _ hday, number_ofMarch _ hday'] at hnumber
  change daysBefore year + day = daysBefore year' + day' at hnumber
  -- a day lies within its year, so days of different years are apart
  have hwithin {y : Int} {d : Nat} (hd : d ≤ 365) (hleap : d = 365 → isLeapYear (y + 1) = true) :
      daysBefore y + d < daysBefore (y + 1) := by
    rw [daysBefore_succ]
    split
    · omega
    · next hcommon =>
      have : d ≠ 365 := fun heq => hcommon (hleap heq)
      omega
  have hlt := hwithin hday hleap
  have hlt' := hwithin hday' hleap'
  obtain rfl : year = year' := by
    rcases Int.lt_trichotomy year year' with hbefore | heq | hbefore
    · have := daysBefore_mono (Int.add_one_le_of_lt hbefore)
      omega
    · exact heq
    · have := daysBefore_mono (Int.add_one_le_of_lt hbefore)
      omega
  obtain rfl : day = day' := by omega
  rfl

end Civil

namespace Date

/-- **A date is found by its year, month and day.** -/
theorem ofCivil?_civil (d : Date) : ofCivil? d.civil = some d := by
  obtain ⟨hnumber, hexists⟩ := Civil.ofNumber_spec d.number
  rw [ofCivil?, civil, if_pos hexists, hnumber, ofNumber?, dif_pos ⟨d.firstDay_le, d.le_lastDay⟩]

/-- **A date has the year, month and day that it was found by.** -/
theorem civil_ofCivil? {c : Civil} {d : Date} (h : ofCivil? c = some d) : d.civil = c := by
  rw [ofCivil?] at h
  split at h
  · next hexists =>
    rw [ofNumber?] at h
    split at h
    · obtain rfl := Option.some.inj h
      obtain ⟨hnumber, hcivil⟩ := Civil.ofNumber_spec c.number
      exact Civil.number_inj hcivil hexists hnumber
    · contradiction
  · contradiction

end Date

end Formulary
