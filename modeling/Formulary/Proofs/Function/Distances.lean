import Formulary.Function.Dates
import Formulary.Proofs.Calendar.Civil
import Formulary.Proofs.Decimal.Operations
import Formulary.Proofs.Outcome

/-!
# The distance to a date that has been moved

`DATE_DIFF` undoes `DATE_ADD`: from a date to the date so many units later it is that many units, and back it is
as many below zero (`Dates.difference_add`). A date in a leap second is left out, since moving it leaves the leap
second.

Days and shorter units are stretches of seconds, and moving by them keeps the nanoseconds within the second, so
that no part of a unit is left (`DateTime.secondsUntil_addSeconds?`). Months and years are counted by the
calendar: the new date has the year and month that were reached by counting, whatever became of the day of the
month (`Date.addMonths?_spec`).
-/

namespace Formulary

/-! ### Whole numbers -/

namespace Decimal

variable {a : Decimal} {n : Int}

/-- A decimal that is a whole number denotes it. -/
theorem toRat_of_toInt? (h : a.toInt? = some n) : a.toRat = n := by
  rw [toInt?] at h
  split at h
  · next hdvd =>
    obtain rfl := Option.some.inj h
    have hten : (10 : ℚ) ^ a.scale ≠ 0 := pow_ne_zero _ (by norm_num)
    -- the quotient is whole, so nothing is lost in it
    have hquotient : ((a.coefficient / powerOfTen a.scale : Nat) : ℚ) = a.coefficient / 10 ^ a.scale := by
      rw [eq_div_iff hten, ← powerOfTen_cast, ← Nat.cast_mul,
        Nat.div_mul_cancel (Nat.dvd_of_mod_eq_zero hdvd)]
    rw [toRat_eq, ← hquotient, signFactor]
    split
    · rw [neg_one_mul, Int.cast_neg, Int.cast_natCast]
    · rw [one_mul, Int.cast_natCast]
  · contradiction

/-- A whole number of 64 bits is a decimal. -/
theorem exists_ofInt? (h : n.natAbs ≤ 9223372036854775808) : ∃ d, ofInt? n = some d ∧ d.toRat = n := by
  have hlt : n.natAbs < limit := Nat.lt_of_le_of_lt h (by decide)
  obtain ⟨d, hd⟩ := make?_isSome (decide (n < 0)) hlt (Nat.zero_le maxScale)
  exact ⟨d, hd, by rw [toRat_make? hd, pow_zero, div_one, signFactor_natAbs]⟩

end Decimal

/-! ### Months -/

/-- The months before a month of the calendar. -/
def Date.monthsBefore (d : Date) : Int := d.year * 12 + (d.month - 1)

theorem Date.month_mem (d : Date) : 1 ≤ d.month ∧ d.month ≤ 12 := by
  obtain ⟨hpos, hle, -⟩ := (Civil.ofNumber_spec d.number).2
  exact ⟨hpos, hle⟩

/-- **Moving by months** counts the months of the calendar, also where the day of the month is cut. -/
theorem Date.monthsBefore_addMonths? {d e : Date} {months : Int} (h : d.addMonths? months = some e) :
    e.monthsBefore = d.monthsBefore + months := by
  -- the day may have been cut to the length of the month, the year and month are those asked for
  have hcivil := civil_ofCivil? h
  have hyear : e.year = (d.monthsBefore + months) / 12 := congrArg Civil.year hcivil
  have hmonth : e.month = ((d.monthsBefore + months) % 12).toNat + 1 := congrArg Civil.month hcivil
  rw [monthsBefore, hyear, hmonth]
  omega

theorem DateTime.monthsUntil_eq (a b : DateTime) :
    a.monthsUntil b = b.date.monthsBefore - a.date.monthsBefore := by
  rw [monthsUntil, Date.monthsBefore, Date.monthsBefore]
  ring

/-- Twelve months at a time, the month stays. -/
theorem Date.year_addMonths? {d e : Date} {years : Int} (h : d.addMonths? (years * 12) = some e) :
    e.year = d.year + years := by
  have hmonths := monthsBefore_addMonths? h
  have hd := d.month_mem
  have he := e.month_mem
  rw [monthsBefore, monthsBefore] at hmonths
  omega

/-! ### Seconds -/

theorem Date.number_addDays? {d e : Date} {days : Int} (h : d.addDays? days = some e) :
    e.number = d.number + days := by
  rw [addDays?, ofNumber?] at h
  split at h
  · obtain rfl := Option.some.inj h
    rfl
  · contradiction

namespace DateTime

variable {d e : DateTime} {seconds : Int}

/-- Moving by seconds counts the seconds, and leaves the nanoseconds within the second as they are. -/
theorem addSeconds?_spec (hleap : d.time.nanosecond < 1000000000) (h : d.addSeconds? seconds = some e) :
    e.date.number * 86400 + e.time.second = d.date.number * 86400 + d.time.second + seconds ∧
      e.time.nanosecond = d.time.nanosecond := by
  rw [addSeconds?] at h
  split at h
  · next hzero =>
    obtain rfl := Option.some.inj h
    rw [hzero, Int.add_zero]
    exact ⟨rfl, rfl⟩
  · -- without a leap second the nanoseconds are carried along
    have hplain : ¬(1000000000 ≤ d.time.nanosecond ∧ seconds < 0) := by omega
    simp only [if_neg hplain] at h
    obtain ⟨date, hdate, rfl⟩ := Option.map_eq_some_iff.mp h
    refine ⟨?_, Nat.mod_eq_of_lt hleap⟩
    rw [Date.number_addDays? hdate]
    -- the days and the seconds of the day make up the whole again
    change _ + (((d.time.second + seconds) % 86400).toNat : Int) = _
    omega

/-- **No part of a second is left** between a date and the date that it is moved to. -/
theorem secondsUntil_addSeconds? (hleap : d.time.nanosecond < 1000000000)
    (h : d.addSeconds? seconds = some e) : d.secondsUntil e = seconds ∧ e.secondsUntil d = -seconds := by
  obtain ⟨hsecond, hnanosecond⟩ := addSeconds?_spec hleap h
  have hplain : ¬1000000000 ≤ d.time.nanosecond := Nat.not_le_of_lt hleap
  have hforth : d.nanosecondsUntil e = seconds * 1000000000 := by
    simp only [nanosecondsUntil, hnanosecond, hplain, and_false, if_false]
    omega
  have hback : e.nanosecondsUntil d = -seconds * 1000000000 := by
    simp only [nanosecondsUntil, hnanosecond, hplain, and_false, if_false]
    omega
  rw [secondsUntil, secondsUntil, hforth, hback]
  exact ⟨Int.mul_tdiv_cancel _ (by decide), Int.mul_tdiv_cancel _ (by decide)⟩

end DateTime

/-! ### Units -/

/-- **The distance undoes the move**, in every unit and in both directions. -/
theorem DateUnit.between_add? {unit : DateUnit} {d e : DateTime} {amount : Int}
    (hleap : d.time.nanosecond < 1000000000) (h : unit.add? d amount = some e) :
    unit.between d e = amount ∧ unit.between e d = -amount := by
  -- days, hours and minutes are stretches of so many seconds, none of which is left over
  have hstretch {length : Int} (hlength : length ≠ 0) (h : d.addSeconds? (amount * length) = some e) :
      (d.secondsUntil e).tdiv length = amount ∧ (e.secondsUntil d).tdiv length = -amount := by
    obtain ⟨hforth, hback⟩ := DateTime.secondsUntil_addSeconds? hleap h
    rw [hforth, hback, ← Int.neg_mul]
    exact ⟨Int.mul_tdiv_cancel _ hlength, Int.mul_tdiv_cancel _ hlength⟩
  cases unit with
  | days => exact hstretch (by decide) h
  | hours => exact hstretch (by decide) h
  | minutes => exact hstretch (by decide) h
  | seconds => exact DateTime.secondsUntil_addSeconds? hleap h
  | months =>
    obtain ⟨date, hdate, rfl⟩ := Option.map_eq_some_iff.mp h
    -- months and years are counted by the calendar
    have hmonths := Date.monthsBefore_addMonths? hdate
    simp only [between, DateTime.monthsUntil_eq]
    omega
  | years =>
    obtain ⟨date, hdate, rfl⟩ := Option.map_eq_some_iff.mp h
    have hyear := Date.year_addMonths? hdate
    simp only [between]
    omega

/-! ### The functions -/

/-- Which unit a word names does not depend on the function that asks. -/
theorem DateUnit.ofText_eq_ok {function word : String} {unit : DateUnit}
    (h : ofText function word = .ok unit) (function' : String) : ofText function' word = .ok unit := by
  rw [ofText] at h ⊢
  cases hlookup : words.lookup (String.ofList (Text.lowerAscii (Text.trim word.toList))) with
  | none => simp [hlookup] at h
  | some found => simpa [hlookup] using h

/-- An argument that counts is a whole number of 64 bits. -/
theorem Argument.integer_eq_ok {function : String} {arguments : List Value} {position : Nat}
    {n : Decimal} {amount : Int} (hnumber : number function arguments position = .ok n)
    (h : integer function arguments position = .ok amount) : n.toInt? = some amount ∧ FitsWord amount := by
  rw [integer, hnumber, ok_bind] at h
  cases hwhole : n.toInt? with
  | none => simp [hwhole, throw, throwThe, MonadExceptOf.throw] at h
  | some i =>
    simp only [hwhole] at h
    split at h
    · next hfits =>
      obtain rfl := Except.ok.inj h
      exact ⟨rfl, hfits⟩
    · simp [throw, throwThe, MonadExceptOf.throw] at h

namespace Dates

variable {d : DateTime} {n : Decimal} {word : String} {v : Value}

/-- A date is moved by a whole number of 64 bits, by so many units of those that the word names. -/
theorem add_eq_ok (h : add [.dateTime d, .number n, .string word] = .ok v) :
    ∃ amount unit e, n.toInt? = some amount ∧ Argument.FitsWord amount ∧
      DateUnit.ofText "DATE_ADD" word = .ok unit ∧ unit.add? d amount = some e ∧ v = .dateTime e := by
  have hdate : Argument.dateTime "DATE_ADD" [.dateTime d, .number n, .string word] 0 = .ok d := rfl
  have hword : Argument.string "DATE_ADD" [.dateTime d, .number n, .string word] 2 = .ok word := rfl
  rw [add, hdate, ok_bind] at h
  obtain ⟨amount, hamount, h⟩ := bind_eq_ok_iff.mp h
  rw [hword, ok_bind] at h
  obtain ⟨unit, hunit, h⟩ := bind_eq_ok_iff.mp h
  obtain ⟨hwhole, hfits⟩ := Argument.integer_eq_ok (n := n) rfl hamount
  cases hmoved : unit.add? d amount with
  | none => simp [hmoved, throw, throwThe, MonadExceptOf.throw] at h
  | some e =>
    simp only [hmoved] at h
    exact ⟨amount, unit, e, hwhole, hfits, hunit, hmoved, (Except.ok.inj h).symm⟩

/-- The distance between two dates is a number if it is one of 64 bits. -/
theorem exists_difference {unit : DateUnit} {a b : DateTime}
    (hunit : DateUnit.ofText "DATE_DIFF" word = .ok unit)
    (hfits : (unit.between a b).natAbs ≤ 9223372036854775808) :
    ∃ r, difference [.dateTime a, .dateTime b, .string word] = .ok (.number r) ∧
      r.toRat = unit.between a b := by
  have hstart : Argument.dateTime "DATE_DIFF" [.dateTime a, .dateTime b, .string word] 0 = .ok a := rfl
  have hlast : Argument.dateTime "DATE_DIFF" [.dateTime a, .dateTime b, .string word] 1 = .ok b := rfl
  have hword : Argument.string "DATE_DIFF" [.dateTime a, .dateTime b, .string word] 2 = .ok word := rfl
  obtain ⟨r, hr, hvalue⟩ := Decimal.exists_ofInt? hfits
  refine ⟨r, ?_, hvalue⟩
  rw [difference, hstart, ok_bind, hlast, ok_bind, hword, ok_bind, hunit, ok_bind, hr]
  rfl

/-- **The difference undoes the addition.** If a date outside of leap seconds can be moved by a number of units, the
result is a date, the difference from the one to the other in these units is that number, and the difference back
is its negative. -/
theorem difference_add (hleap : d.time.nanosecond < 1000000000)
    (h : add [.dateTime d, .number n, .string word] = .ok v) :
    ∃ e forth back, v = .dateTime e ∧
      (difference [.dateTime d, .dateTime e, .string word] = .ok (.number forth) ∧ forth.toRat = n.toRat) ∧
      (difference [.dateTime e, .dateTime d, .string word] = .ok (.number back) ∧ back.toRat = -n.toRat) := by
  obtain ⟨amount, unit, e, hwhole, ⟨hleast, hmost⟩, hunit, hmoved, rfl⟩ := add_eq_ok h
  obtain ⟨hforth, hback⟩ := DateUnit.between_add? hleap hmoved
  have hword := DateUnit.ofText_eq_ok hunit "DATE_DIFF"
  obtain ⟨forth, hdifference, hvalue⟩ := exists_difference hword (a := d) (b := e) (by omega)
  obtain ⟨back, hdifference', hvalue'⟩ := exists_difference hword (a := e) (b := d) (by omega)
  refine ⟨e, forth, back, rfl, ⟨hdifference, ?_⟩, ⟨hdifference', ?_⟩⟩
  · rw [hvalue, hforth, Decimal.toRat_of_toInt? hwhole]
  · rw [hvalue', hback, Int.cast_neg, Decimal.toRat_of_toInt? hwhole]

/-- Half a second past six in the evening of 31 March 2024. -/
def lateMarch : DateTime :=
  ⟨⟨739281, by decide, by decide⟩, ⟨64800, 500000000, by decide, by decide, by decide⟩⟩

/-- The same time on 28 February 2023. -/
def lateFebruary : DateTime := { lateMarch with date := ⟨738884, by decide, by decide⟩ }

/-- Thirteen below zero, written with four places. -/
def minusThirteen : Decimal := ⟨true, 130000, 4, by decide, by decide⟩

/-- Thirteen months before the end of March the day of the month is cut, and the difference is thirteen months
still. -/
theorem difference_add_clamped :
    lateMarch.date.civil = ⟨2024, 3, 31⟩ ∧ lateFebruary.date.civil = ⟨2023, 2, 28⟩ ∧
      lateMarch.time.nanosecond < 1000000000 ∧
      add [.dateTime lateMarch, .number minusThirteen, .string " Month"] = .ok (.dateTime lateFebruary) ∧
      ∃ forth back,
        (difference [.dateTime lateMarch, .dateTime lateFebruary, .string " Month"] = .ok (.number forth) ∧
          forth.toRat = -13) ∧
        (difference [.dateTime lateFebruary, .dateTime lateMarch, .string " Month"] = .ok (.number back) ∧
          back.toRat = 13) := by
  have hleap : lateMarch.time.nanosecond < 1000000000 := by decide
  have hmoved : add [.dateTime lateMarch, .number minusThirteen, .string " Month"] =
      .ok (.dateTime lateFebruary) := rfl
  have hnumber : minusThirteen.toRat = -13 := by norm_num [Decimal.toRat, Decimal.signed, minusThirteen]
  obtain ⟨e, forth, back, he, hforth, hback⟩ := difference_add hleap hmoved
  obtain rfl := Value.dateTime.inj he
  rw [hnumber] at hforth hback
  rw [neg_neg] at hback
  exact ⟨rfl, rfl, hleap, hmoved, forth, back, hforth, hback⟩

end Dates

end Formulary
