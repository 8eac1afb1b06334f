/-!
# Dates

A `Date` is a day of the proleptic Gregorian calendar, kept as the number of days since 1 March of the
year 0. Counting from March puts the leap day at the end of a year, so that the days before a month
do not depend on the year.

* `Date.civil` and `Date.ofCivil?` lead to year, month and day and back.
* `Date.addDays?` and `Date.addMonths?` move a date; a day that the new month lacks becomes the last
  day of that month.

Dates reach from the start of the year -262143 to the end of the year 262142.
-/

namespace Formulary

/-- The number of the first day there is, 1 January of the year -262143. -/
def Date.firstDay : Int := -95745824

/-- The number of the last day there is, 31 December of the year 262142. -/
def Date.lastDay : Int := 95745704

/-- A day of the calendar. -/
structure Date where
  /-- The number of days since 1 March of the year 0. -/
  number : Int
  /-- The day is not before the first one. -/
  firstDay_le : Date.firstDay ≤ number
  /-- The day is not after the last one. -/
  le_lastDay : number ≤ Date.lastDay
deriving DecidableEq, Repr

/-- A year, a month from 1 to 12 and a day of the month from 1, which need not exist. -/
structure Civil where
  /-- The year, 0 being the year before the year 1. -/
  year : Int
  /-- The month, 1 being January. -/
  month : Nat
  /-- The day of the month. -/
  day : Nat
deriving DecidableEq, Repr

/-- Whether a year has a leap day. -/
def isLeapYear (year : Int) : Bool :=
  year % 4 == 0 && (year % 100 != 0 || year % 400 == 0)

/-- The number of days of a month. -/
def daysInMonth (year : Int) (month : Nat) : Nat :=
  if month = 2 then if isLeapYear year then 29 else 28
  else if month = 4 ∨ month = 6 ∨ month = 9 ∨ month = 11 then 30
  else 31

namespace Civil

/-- Whether the month and the day exist. -/
def Exists (c : Civil) : Prop :=
  1 ≤ c.month ∧ c.month ≤ 12 ∧ 1 ≤ c.day ∧ c.day ≤ daysInMonth c.year c.month

instance (c : Civil) : Decidable c.Exists :=
  inferInstanceAs (Decidable (_ ∧ _ ∧ _ ∧ _))

/-- The number of days from 1 March of the year 0. -/
def number (c : Civil) : Int :=
  let year := if c.month ≤ 2 then c.year - 1 else c.year
  let month := if c.month ≤ 2 then c.month + 9 else c.month - 3
  let dayOfYear := (153 * month + 2) / 5 + (c.day - 1)
  365 * year + year / 4 - year / 100 + year / 400 + (dayOfYear : Int)

/-- The year, month and day with that number. Four centuries have 146097 days, and within them the
year is found by taking out the leap days that came before. -/
def ofNumber (n : Int) : Civil :=
  let era := n / 146097
  let dayOfEra := (n % 146097).toNat
  let yearOfEra := (dayOfEra - dayOfEra / 1460 + dayOfEra / 36524 - dayOfEra / 146096) / 365
  let dayOfYear := dayOfEra - (365 * yearOfEra + yearOfEra / 4 - yearOfEra / 100)
  let month := (5 * dayOfYear + 2) / 153
  let year := era * 400 + (yearOfEra : Int)
  { year := if month < 10 then year else year + 1
    month := if month < 10 then month + 3 else month - 9
    day := dayOfYear - (153 * month + 2) / 5 + 1 }

end Civil

namespace Date

/-- The date with that number, if it lies in the calendar. -/
def ofNumber? (n : Int) : Option Date :=
  if h : firstDay ≤ n ∧ n ≤ lastDay then some ⟨n, h.1, h.2⟩ else none

/-- The date of a year, month and day, if they exist and lie in the calendar. -/
def ofCivil? (c : Civil) : Option Date :=
  if c.Exists then ofNumber? c.number else none

/-- The year, month and day of a date. -/
def civil (d : Date) : Civil := Civil.ofNumber d.number

/-- The year of a date. -/
def year (d : Date) : Int := d.civil.year

/-- The month of a date, from 1. -/
def month (d : Date) : Nat := d.civil.month

/-- The day of the month of a date, from 1. -/
def day (d : Date) : Nat := d.civil.day

/-- The day of the year, from 1. -/
def dayOfYear (d : Date) : Nat := (d.number - Civil.number ⟨d.year, 1, 1⟩).toNat + 1

/-- The day of the week, 0 being Monday. -/
def weekday (d : Date) : Nat := ((d.number + 2) % 7).toNat

/-- The number of the first day of week 1 of a year, weeks starting on Monday and week 1 being the one
that holds 4 January. -/
def isoYearStart (year : Int) : Int :=
  let fourth := Civil.number ⟨year, 1, 4⟩
  fourth - (fourth + 2) % 7

/-- The year whose weeks the date is counted in, and the number of its week. -/
def isoWeek (d : Date) : Int × Nat :=
  let year :=
    if d.number < isoYearStart d.year then d.year - 1
    else if isoYearStart (d.year + 1) ≤ d.number then d.year + 1
    else d.year
  (year, ((d.number - isoYearStart year) / 7).toNat + 1)

/-- The date a number of days later, if it lies in the calendar. -/
def addDays? (d : Date) (days : Int) : Option Date := ofNumber? (d.number + days)

/-- The date a number of months later, if it lies in the calendar. A day that the month lacks becomes
its last one. -/
def addMonths? (d : Date) (months : Int) : Option Date :=
  let c := d.civil
  let total := c.year * 12 + ((c.month : Int) - 1) + months
  let year := total / 12
  let month := (total % 12).toNat + 1
  ofCivil? ⟨year, month, min c.day (daysInMonth year month)⟩

/-- Orders dates by time. -/
def compare (a b : Date) : Ordering := Ord.compare a.number b.number

end Date

end Formulary
