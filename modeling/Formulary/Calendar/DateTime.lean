import Formulary.Calendar.Date

/-!
# Dates with a time of day

A `TimeOfDay` counts seconds from midnight and nanoseconds within the second. A **leap second** is
the nanoseconds from 1000000000 on of the last second of a minute: it is read and written as second
60. Moving a time by whole seconds leaves a leap second; moving it by none stays in it.

A `DateTime` is a date with a time of day, without a time zone.
-/

namespace Formulary

/-- A time of day. -/
structure TimeOfDay where
  /-- The number of whole seconds since midnight. -/
  second : Nat
  /-- The nanoseconds within the second; a leap second has 1000000000 and more. -/
  nanosecond : Nat
  /-- The second belongs to the day. -/
  second_lt : second < 86400
  /-- A second with its leap second lasts two seconds. -/
  nanosecond_lt : nanosecond < 2000000000
  /-- Only the last second of a minute has a leap second. -/
  leap : 1000000000 ≤ nanosecond → second % 60 = 59
deriving DecidableEq, Repr

/-- A date with a time of day. -/
structure DateTime where
  /-- The date. -/
  date : Date
  /-- The time of day. -/
  time : TimeOfDay
deriving DecidableEq, Repr

namespace TimeOfDay

/-- The start of a day. -/
def midnight : TimeOfDay := ⟨0, 0, by decide, by decide, by decide⟩

/-- The time at an hour, a minute, a second from 0 to 60 and a nanosecond, if there is one. -/
def ofParts? (hour minute second nanosecond : Nat) : Option TimeOfDay :=
  if h : hour < 24 ∧ minute < 60 ∧ second ≤ 60 ∧ nanosecond < 1000000000 then
    if leap : second = 60 then
      -- the second before, with all its nanoseconds gone by
      some
        { second := hour * 3600 + minute * 60 + 59
          nanosecond := nanosecond + 1000000000
          second_lt := by omega
          nanosecond_lt := by omega
          leap := by omega }
    else
      some
        { second := hour * 3600 + minute * 60 + second
          nanosecond
          second_lt := by omega
          nanosecond_lt := by omega
          leap := by omega }
  else none

/-- The hour, from 0 to 23. -/
def hour (t : TimeOfDay) : Nat := t.second / 3600

/-- The minute of the hour. -/
def minute (t : TimeOfDay) : Nat := t.second / 60 % 60

/-- The second of the minute, from 0 to 60. -/
def secondOfMinute (t : TimeOfDay) : Nat := t.second % 60 + t.nanosecond / 1000000000

/-- The nanoseconds of the second, those of a leap second counted afresh. -/
def subsecond (t : TimeOfDay) : Nat := t.nanosecond % 1000000000

/-- Orders times of one day. -/
def compare (a b : TimeOfDay) : Ordering :=
  (Ord.compare a.second b.second).then (Ord.compare a.nanosecond b.nanosecond)

end TimeOfDay

namespace DateTime

/-- The start of 1 March of the year 0, from which days are counted. -/
def origin : DateTime := ⟨⟨0, by decide, by decide⟩, .midnight⟩

/-- The start of the day. -/
def startOfDay (d : DateTime) : DateTime := { d with time := .midnight }

/-- Moves by whole seconds, if the result lies in the calendar. -/
def addSeconds? (d : DateTime) (seconds : Int) : Option DateTime :=
  if seconds = 0 then some d
  else
    -- a leap second is left: forward it counts as the second before it, backward as the one after
    let isLeap := 1000000000 ≤ d.time.nanosecond
    let start : Int := if isLeap ∧ seconds < 0 then d.time.second + 1 else d.time.second
    let total := start + seconds
    let second := (total % 86400).toNat
    (d.date.addDays? (total / 86400)).map fun date =>
      { date
        time :=
          { second
            nanosecond := d.time.nanosecond % 1000000000
            second_lt := by omega
            nanosecond_lt := by omega
            leap := by omega } }

/-- Moves by months, if the result lies in the calendar; the time of day stays. -/
def addMonths? (d : DateTime) (months : Int) : Option DateTime :=
  (d.date.addMonths? months).map fun date => { d with date }

/-- The time from `a` to `b` in nanoseconds. A leap second that lies between the two times of day
counts. -/
def nanosecondsUntil (a b : DateTime) : Int :=
  let passed : Int :=
    if a.time.second < b.time.second ∧ 1000000000 ≤ a.time.nanosecond then 1
    else if b.time.second < a.time.second ∧ 1000000000 ≤ b.time.nanosecond then -1
    else 0
  let seconds : Int :=
    (b.date.number - a.date.number) * 86400 + ((b.time.second : Int) - a.time.second) + passed
  seconds * 1000000000 + ((b.time.nanosecond : Int) - a.time.nanosecond)

/-- The whole seconds from `a` to `b`, rounded toward zero. -/
def secondsUntil (a b : DateTime) : Int := Int.tdiv (nanosecondsUntil a b) 1000000000

/-- The months from `a` to `b`, counted by calendar months and not by days. -/
def monthsUntil (a b : DateTime) : Int :=
  (b.date.year - a.date.year) * 12 + b.date.month - a.date.month

/-- The number of seconds since the start of 1970. -/
def epochSecond (d : DateTime) : Int := (d.date.number - 719468) * 86400 + d.time.second

/-- The time that many nanoseconds after the start of 1970, if it lies in the calendar. -/
def ofEpochNanosecond? (n : Int) : Option DateTime :=
  let second := n / 1000000000
  (Date.ofNumber? (second / 86400 + 719468)).map fun date =>
    { date
      time :=
        { second := (second % 86400).toNat
          nanosecond := (n % 1000000000).toNat
          second_lt := by omega
          nanosecond_lt := by omega
          leap := by omega } }

/-- Orders by time. -/
def compare (a b : DateTime) : Ordering :=
  (a.date.compare b.date).then (a.time.compare b.time)

end DateTime

end Formulary
