import Formulary.Calendar.DateTime
import Formulary.PowerOfTen
import Formulary.Text.Blank
import Formulary.Text.Numeral

/-!
# Reading dates and times

`DateTime.ofText?` takes a date, a date with a time, or a time stamp with an offset, with white space
around it.

* **A date** is year, month and day with hyphens. Without a sign the year has at most four digits;
  numbers may be short (`2024-1-5`) and may have white space in front of them.
* **A time** follows behind a `T`, in hours, minutes, seconds and a fraction, or in hours and minutes
  alone; behind white space, or nothing, it needs the seconds. Digits of the fraction past the ninth
  are dropped.
* **A time stamp** has all its digits, a fraction at will, and `Z` or an offset in hours and minutes;
  it is read as the time at offset zero.

Second 60 is the leap second of its minute.
-/

namespace Formulary.DateTime

open Text

/-- Splits an unsigned number off the front of a text, white space before it aside. -/
def field? (most : Nat) (text : List Char) : Option (Nat × List Char) :=
  number? 1 most (trimStart text)

/-- Splits a year off the front of a text: at most four digits, or a sign and any number of them. -/
def year? (text : List Char) : Option (Int × List Char) :=
  match trimStart text with
  | '-' :: rest => (number? 1 rest.length rest).map fun (n, rest) => (-(n : Int), rest)
  | '+' :: rest => (number? 1 rest.length rest).map fun (n, rest) => ((n : Int), rest)
  | other => (number? 1 4 other).map fun (n, rest) => ((n : Int), rest)

/-- Splits a date off the front of a text. -/
def date? (text : List Char) : Option (Date × List Char) := do
  let (year, rest) ← year? text
  let (month, rest) ← field? 2 (← afterChar? '-' rest)
  let (day, rest) ← field? 2 (← afterChar? '-' rest)
  return (← Date.ofCivil? ⟨year, month, day⟩, rest)

/-- Splits a fraction of a second off the front of a text, if there is one: its nanoseconds. -/
def fraction? (text : List Char) : Option (Nat × List Char) :=
  match text with
  | '.' :: rest =>
    let digits := (rest.take 9).takeWhile Char.isDigit
    if digits.isEmpty then none
    else some (digitsValue digits * powerOfTen (9 - digits.length), rest.dropWhile Char.isDigit)
  | other => some (0, other)

/-- Splits hours and minutes off the front of a text. -/
def hourMinute? (text : List Char) : Option ((Nat × Nat) × List Char) := do
  let (hour, rest) ← field? 2 text
  let (minute, rest) ← field? 2 (← afterChar? ':' rest)
  return ((hour, minute), rest)

/-- Splits a time with seconds off the front of a text. -/
def time? (text : List Char) : Option (TimeOfDay × List Char) := do
  let ((hour, minute), rest) ← hourMinute? text
  let (second, rest) ← field? 2 (← afterChar? ':' rest)
  let (nanosecond, rest) ← fraction? rest
  return (← TimeOfDay.ofParts? hour minute second nanosecond, rest)

/-- What was read, if nothing is left over. -/
def whole? {α : Type} : α × List Char → Option α
  | (a, []) => some a
  | (_, _ :: _) => none

/-- Reads a date, a `T` and a time with seconds. -/
def ofSeconds? (text : List Char) : Option DateTime := do
  let (date, rest) ← date? text
  let time ← (time? (← afterChar? 'T' rest)).bind whole?
  return { date, time }

/-- Reads a date and a time with seconds that has white space, or nothing, in front of it. -/
def ofSpaced? (text : List Char) : Option DateTime := do
  let (date, rest) ← date? text
  let time ← (time? (trimStart rest)).bind whole?
  return { date, time }

/-- Reads a date, a `T` and a time in hours and minutes. -/
def ofMinutes? (text : List Char) : Option DateTime := do
  let (date, rest) ← date? text
  let (hour, minute) ← (hourMinute? (← afterChar? 'T' rest)).bind whole?
  let time ← TimeOfDay.ofParts? hour minute 0 0
  return { date, time }

/-- Reads a date, as the start of its day. -/
def ofDate? (text : List Char) : Option DateTime := do
  let date ← (date? text).bind whole?
  return { date, time := .midnight }

/-! ### Time stamps -/

/-- Splits an offset off the front of a text, in minutes: `Z`, or hours and minutes behind a sign. -/
def offset? (text : List Char) : Option (Int × List Char) :=
  match text with
  | 'Z' :: rest => some (0, rest)
  | 'z' :: rest => some (0, rest)
  | sign :: rest =>
    if sign = '+' ∨ sign = '-' ∨ sign = '\u2212' then do
      let (hours, rest) ← number? 2 2 rest
      let (minutes, rest) ← number? 2 2 (← afterChar? ':' rest)
      if 23 < hours ∨ 59 < minutes then none
      else
        let total : Int := hours * 60 + minutes
        some (if sign = '+' then total else -total, rest)
    else none
  | [] => none

/-- The same moment's time at offset zero, for a time at an offset of `minutes`; a leap second stays
one. -/
def atOffsetZero? (d : DateTime) (minutes : Int) : Option DateTime :=
  let total : Int := d.time.second - minutes * 60
  (d.date.addDays? (total / 86400)).map fun date =>
    { date
      time :=
        { second := (total % 86400).toNat
          nanosecond := d.time.nanosecond
          second_lt := by omega
          nanosecond_lt := d.time.nanosecond_lt
          leap := fun h => by have := d.time.leap h; omega } }

/-- Reads a time stamp, as the time at offset zero. -/
def ofStamp? (text : List Char) : Option DateTime := do
  let (year, rest) ← number? 4 4 text
  let (month, rest) ← number? 2 2 (← afterChar? '-' rest)
  let (day, rest) ← number? 2 2 (← afterChar? '-' rest)
  let rest ← ((afterChar? 'T' rest).or (afterChar? 't' rest)).or (afterChar? ' ' rest)
  let (hour, rest) ← number? 2 2 rest
  let (minute, rest) ← number? 2 2 (← afterChar? ':' rest)
  let (second, rest) ← number? 2 2 (← afterChar? ':' rest)
  let (nanosecond, rest) ← fraction? rest
  let minutes ← (offset? rest).bind whole?
  let date ← Date.ofCivil? ⟨year, month, day⟩
  let time ← TimeOfDay.ofParts? hour minute second nanosecond
  atOffsetZero? { date, time } minutes

/-- Reads a date or a date with a time, from characters without white space at their ends. -/
def ofChars? (text : List Char) : Option DateTime :=
  ofSeconds? text
    |>.or (ofSpaced? text)
    |>.or (ofMinutes? text)
    |>.or (ofStamp? text)
    |>.or (ofDate? text)

/-- Reads a date or a date with a time. -/
def ofText? (text : String) : Option DateTime := ofChars? (Text.trim text.toList)

end Formulary.DateTime
