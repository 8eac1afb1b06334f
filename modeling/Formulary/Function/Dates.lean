import Formulary.Function.Argument
import Formulary.Text.Case

/-!
# Date functions

Functions on dates with a time of day. Days and shorter units are fixed stretches of time; months and
years go by the calendar: moving by them keeps the day of the month where the new month has it, and
the distance in them counts how often the month or the year changes.
-/

namespace Formulary

/-- A unit of time. -/
inductive DateUnit where
  | days
  | months
  | years
  | hours
  | minutes
  | seconds
deriving DecidableEq, Repr

namespace DateUnit

/-- The words for the units. -/
def words : List (String × DateUnit) :=
  [("days", days), ("day", days), ("d", days), ("months", months), ("month", months), ("m", months),
    ("years", years), ("year", years), ("y", years), ("hours", hours), ("hour", hours), ("h", hours),
    ("minutes", minutes), ("minute", minutes), ("min", minutes), ("seconds", seconds),
    ("second", seconds), ("s", seconds)]

/-- The unit that an argument of a function names. -/
def ofText (function text : String) : Except Fault DateUnit :=
  let word := String.ofList (Text.lowerAscii (Text.trim text.toList))
  match words.lookup word with
  | some unit => .ok unit
  | none => .error (.invalidArgument function (.unknownUnit word))

/-- The date an amount of units later, if it lies in the calendar. -/
def add? (unit : DateUnit) (d : DateTime) (amount : Int) : Option DateTime :=
  match unit with
  | days => d.addSeconds? (amount * 86400)
  | hours => d.addSeconds? (amount * 3600)
  | minutes => d.addSeconds? (amount * 60)
  | seconds => d.addSeconds? amount
  | months => d.addMonths? amount
  | years => d.addMonths? (amount * 12)

/-- The number of units from one date to another, a part of a unit at the end left out. -/
def between (unit : DateUnit) (a b : DateTime) : Int :=
  match unit with
  | days => (a.secondsUntil b).tdiv 86400
  | hours => (a.secondsUntil b).tdiv 3600
  | minutes => (a.secondsUntil b).tdiv 60
  | seconds => a.secondsUntil b
  | months => a.monthsUntil b
  | years => b.date.year - a.date.year

end DateUnit

namespace Dates

/-- The date an amount of units later. -/
def add (arguments : List Value) : Except Fault Value := do
  let date ← Argument.dateTime "DATE_ADD" arguments 0
  let amount ← Argument.integer "DATE_ADD" arguments 1
  let unit ← DateUnit.ofText "DATE_ADD" (← Argument.string "DATE_ADD" arguments 2)
  match unit.add? date amount with
  | some d => return .dateTime d
  | none => throw (.numericOverflow "DATE_ADD")

/-- The number of units from one date to another. -/
def difference (arguments : List Value) : Except Fault Value := do
  let start ← Argument.dateTime "DATE_DIFF" arguments 0
  let last ← Argument.dateTime "DATE_DIFF" arguments 1
  let unit ← DateUnit.ofText "DATE_DIFF" (← Argument.string "DATE_DIFF" arguments 2)
  match Decimal.ofInt? (unit.between start last) with
  | some n => return .number n
  | none => throw (.numericOverflow "DATE_DIFF")

/-- The date written by a pattern. -/
def format (arguments : List Value) : Except Fault Value := do
  let date ← Argument.dateTime "FORMAT_DATE" arguments 0
  let text ← Argument.string "FORMAT_DATE" arguments 1
  match Pattern.ofChars? text.toList with
  | none => throw (.invalidArgument "FORMAT_DATE" (.invalidPattern text))
  | some pattern =>
    match pattern.render? date with
    | some written => return .string (String.ofList written)
    | none => throw (.invalidArgument "FORMAT_DATE" (.zonedPattern text))

end Dates

end Formulary
