import Formulary.Calendar.DateTime
import Formulary.PowerOfTen
import Formulary.Text.Numeral

/-!
# Date patterns

A pattern is literal text with directives: a percent sign, sometimes a padding mark, and a letter.
`Pattern.ofChars?` reads a pattern into items and `Pattern.render?` writes a date-time by them.

* A padding mark, `-` for none, `_` for blanks and `0` for zeros, is for directives of one number only.
* Some directives stand for several items: `%T` is `%H:%M:%S`.
* Directives about a time zone are patterns too, but no date-time has a zone to write.
-/

namespace Formulary

/-- What fills the front of a number that is shorter than its width. -/
inductive Padding where
  /-- Nothing does. -/
  | none
  /-- Zeros, behind the sign. -/
  | zeros
  /-- Blanks, before the sign. -/
  | blanks
deriving DecidableEq, Repr

/-- A part of a date-time that is written as a number. -/
inductive DateField where
  | year | century | yearOfCentury | isoYear | isoYearOfCentury | quarter | month | day
  | weekFromSunday | weekFromMonday | isoWeek | daysFromSunday | dayFromMonday | dayOfYear
  | hour | hour12 | minute | second | nanosecond | epochSecond
deriving DecidableEq, Repr

/-- A part of a date-time that is written as a name. -/
inductive DateName where
  | shortMonth | longMonth | shortWeekday | longWeekday | lowerHalfDay | upperHalfDay
deriving DecidableEq, Repr

/-- A piece of a pattern. -/
inductive PatternItem where
  /-- Text that stands for itself. -/
  | literal (text : List Char)
  /-- A number. -/
  | number (field : DateField) (padding : Padding)
  /-- A name. -/
  | name (name : DateName)
  /-- A point and the nanoseconds in three, six or nine digits, or nothing if there are none. -/
  | fraction
  /-- A fixed number of digits of the fraction, at most nine, with a point in front or without. -/
  | fractionDigits (point : Bool) (digits : Nat)
  /-- Something about the time zone. -/
  | zone
deriving DecidableEq, Repr

/-- A date pattern. -/
abbrev Pattern := List PatternItem

namespace DateName

/-- The names of the months. -/
def months : List String :=
  ["January", "February", "March", "April", "May", "June", "July", "August", "September",
   "October", "November", "December"]

/-- The names of the days of the week, from Monday. -/
def weekdays : List String :=
  ["Monday", "Tuesday", "Wednesday", "Thursday", "Friday", "Saturday", "Sunday"]

/-- The name, as characters. -/
def render (d : DateTime) : DateName → List Char
  | longMonth => (months.getD (d.date.month - 1) "").toList
  | shortMonth => (months.getD (d.date.month - 1) "").toList.take 3
  | longWeekday => (weekdays.getD d.date.weekday "").toList
  | shortWeekday => (weekdays.getD d.date.weekday "").toList.take 3
  | lowerHalfDay => (if d.time.hour < 12 then "am" else "pm").toList
  | upperHalfDay => (if d.time.hour < 12 then "AM" else "PM").toList

end DateName

namespace DateField

/-- A number as two digits. The tens of a number above 99 are the character so many places behind
`0`. -/
def twoDigits (padding : Padding) (n : Nat) : List Char :=
  let tens := Char.ofNat ('0'.toNat + n / 10)
  let ones := Nat.digitChar (n % 10)
  if n / 10 = 0 then
    match padding with
    | .none => [ones]
    | .blanks => [' ', ones]
    | .zeros => ['0', ones]
  else [tens, ones]

/-- An integer of at least `width` characters, its sign included. A plus is written only if asked
for. -/
def signedDigits (padding : Padding) (width : Nat) (plus : Bool) (n : Int) : List Char :=
  let sign := if n < 0 then ['-'] else if plus then ['+'] else []
  let digits := Nat.toDigits 10 n.natAbs
  match padding with
  | .none => sign ++ digits
  | .zeros => sign ++ List.replicate (width - sign.length - digits.length) '0' ++ digits
  | .blanks => List.replicate (width - sign.length - digits.length) ' ' ++ sign ++ digits

/-- A year: four digits, or a sign and at least four digits for years outside 0 to 9999. -/
def yearDigits (padding : Padding) (year : Int) : List Char :=
  if 0 ≤ year ∧ year ≤ 9999 then signedDigits padding 4 false year
  else signedDigits padding 5 true year

/-- A century, counted modulo 256. -/
def centuryDigits (padding : Padding) (year : Int) : List Char :=
  twoDigits padding (year / 100 % 256).toNat

/-- The number, as characters. -/
def render (d : DateTime) (padding : Padding) : DateField → List Char
  | year => yearDigits padding d.date.year
  | century => centuryDigits padding d.date.year
  | yearOfCentury => twoDigits padding (d.date.year % 100).toNat
  | isoYear => yearDigits padding d.date.isoWeek.1
  | isoYearOfCentury => twoDigits padding (d.date.isoWeek.1 % 100).toNat
  | quarter => [Nat.digitChar ((d.date.month - 1) / 3 + 1)]
  | month => twoDigits padding d.date.month
  | day => twoDigits padding d.date.day
  | weekFromSunday => twoDigits padding ((d.date.dayOfYear + 6 - (d.date.weekday + 1) % 7) / 7)
  | weekFromMonday => twoDigits padding ((d.date.dayOfYear + 6 - d.date.weekday) / 7)
  | isoWeek => twoDigits padding d.date.isoWeek.2
  | daysFromSunday => [Nat.digitChar ((d.date.weekday + 1) % 7)]
  | dayFromMonday => [Nat.digitChar (d.date.weekday + 1)]
  | dayOfYear => signedDigits padding 3 false d.date.dayOfYear
  | hour => twoDigits padding d.time.hour
  | hour12 => twoDigits padding (if d.time.hour % 12 = 0 then 12 else d.time.hour % 12)
  | minute => twoDigits padding d.time.minute
  | second => twoDigits padding d.time.secondOfMinute
  | nanosecond => signedDigits padding 9 false d.time.subsecond
  | epochSecond => signedDigits padding 9 false d.epochSecond

end DateField

namespace PatternItem

/-- The digits of a fraction of a second, as few of three, six and nine as show it, behind a point; a
whole second has none. -/
def fractionChars (d : DateTime) : List Char :=
  let nano := d.time.subsecond
  if nano = 0 then []
  else if nano % 1000000 = 0 then '.' :: Text.padded '0' 3 (nano / 1000000)
  else if nano % 1000 = 0 then '.' :: Text.padded '0' 6 (nano / 1000)
  else '.' :: Text.padded '0' 9 nano

/-- What an item writes, unless it needs a time zone. -/
def render? (d : DateTime) : PatternItem → Option (List Char)
  | literal text => some text
  | number field padding => some (field.render d padding)
  | name n => some (n.render d)
  | fraction => some (fractionChars d)
  | fractionDigits point digits =>
    let shown := Text.padded '0' digits (d.time.subsecond / powerOfTen (9 - digits))
    some (if point then '.' :: shown else shown)
  | zone => none

end PatternItem

namespace Pattern

open DateField DateName PatternItem

/-- The items of a number that is padded with zeros by default. -/
def zeroPadded (field : DateField) : Pattern := [number field .zeros]

/-- Hour, minute and second with colons. -/
def clock : Pattern :=
  [number hour .zeros, literal [':'], number minute .zeros, literal [':'], number second .zeros]

/-- Month, day and year of the century with slashes. -/
def slashed : Pattern :=
  [number month .zeros, literal ['/'], number day .zeros, literal ['/'],
   number yearOfCentury .zeros]

/-- The items of a directive of one letter. -/
def ofLetter? : Char → Option Pattern
  | 'A' => some [name longWeekday]
  | 'B' => some [name longMonth]
  | 'C' => some (zeroPadded century)
  | 'D' => some slashed
  | 'F' => some [number year .zeros, literal ['-'], number month .zeros, literal ['-'],
      number day .zeros]
  | 'G' => some (zeroPadded isoYear)
  | 'H' => some (zeroPadded hour)
  | 'I' => some (zeroPadded hour12)
  | 'M' => some (zeroPadded minute)
  | 'P' => some [name lowerHalfDay]
  | 'R' => some [number hour .zeros, literal [':'], number minute .zeros]
  | 'S' => some (zeroPadded second)
  | 'T' => some clock
  | 'U' => some (zeroPadded weekFromSunday)
  | 'V' => some (zeroPadded isoWeek)
  | 'W' => some (zeroPadded weekFromMonday)
  | 'X' => some clock
  | 'Y' => some (zeroPadded year)
  | 'Z' => some [zone]
  | 'a' => some [name shortWeekday]
  | 'b' => some [name shortMonth]
  | 'c' => some ([name shortWeekday, literal [' '], name shortMonth, literal [' '],
      number day .blanks, literal [' ']] ++ clock ++ [literal [' '], number year .zeros])
  | 'd' => some (zeroPadded day)
  | 'e' => some [number day .blanks]
  | 'f' => some (zeroPadded nanosecond)
  | 'g' => some (zeroPadded isoYearOfCentury)
  | 'h' => some [name shortMonth]
  | 'j' => some (zeroPadded dayOfYear)
  | 'k' => some [number hour .blanks]
  | 'l' => some [number hour12 .blanks]
  | 'm' => some (zeroPadded month)
  | 'n' => some [literal ['\n']]
  | 'p' => some [name upperHalfDay]
  | 'q' => some [number quarter .none]
  | 'r' => some [number hour12 .zeros, literal [':'], number minute .zeros, literal [':'],
      number second .zeros, literal [' '], name upperHalfDay]
  | 's' => some [number epochSecond .none]
  | 't' => some [literal ['\t']]
  | 'u' => some [number dayFromMonday .none]
  | 'v' => some [number day .blanks, literal ['-'], name shortMonth, literal ['-'],
      number year .zeros]
  | 'w' => some [number daysFromSunday .none]
  | 'x' => some slashed
  | 'y' => some (zeroPadded yearOfCentury)
  | 'z' => some [zone]
  | '+' => some [zone]
  | '%' => some [literal ['%']]
  | _ => none

/-- Reads a directive behind its percent sign and padding mark: its items, and the rest. -/
def directive? : List Char → Option (Pattern × List Char)
  | ':' :: 'z' :: rest => some ([zone], rest)
  | ':' :: ':' :: 'z' :: rest => some ([zone], rest)
  | ':' :: ':' :: ':' :: 'z' :: rest => some ([zone], rest)
  | '.' :: 'f' :: rest => some ([fraction], rest)
  | '.' :: '3' :: 'f' :: rest => some ([fractionDigits true 3], rest)
  | '.' :: '6' :: 'f' :: rest => some ([fractionDigits true 6], rest)
  | '.' :: '9' :: 'f' :: rest => some ([fractionDigits true 9], rest)
  | '3' :: 'f' :: rest => some ([fractionDigits false 3], rest)
  | '6' :: 'f' :: rest => some ([fractionDigits false 6], rest)
  | '9' :: 'f' :: rest => some ([fractionDigits false 9], rest)
  | letter :: rest => (ofLetter? letter).map fun items => (items, rest)
  | [] => none

theorem length_of_directive? {text : List Char} {items : Pattern} {rest : List Char}
    (h : directive? text = some (items, rest)) : rest.length < text.length := by
  unfold directive? at h
  split at h
  case h_11 =>
    obtain ⟨_, -, heq⟩ := Option.map_eq_some_iff.1 h
    rw [← (Prod.mk.inj heq).2]
    exact Nat.lt_succ_self _
  all_goals grind

/-- The padding that a mark asks for. -/
def padding? : Char → Option Padding
  | '-' => some .none
  | '0' => some .zeros
  | '_' => some .blanks
  | _ => none

/-- Gives the number that is all of a directive another padding. -/
def pad? (padding : Padding) : Pattern → Option Pattern
  | [number field _] => some [number field padding]
  | _ => none

/-- Reads what follows a percent sign. -/
def marked? (text : List Char) : Option (Pattern × List Char) :=
  match text with
  | [] => none
  | '#' :: 'z' :: rest => some ([zone], rest)
  | mark :: rest =>
    match padding? mark with
    | none => directive? (mark :: rest)
    | some padding => do
      let (items, rest) ← directive? rest
      return (← pad? padding items, rest)

theorem length_of_marked? {text : List Char} {items : Pattern} {rest : List Char}
    (h : marked? text = some (items, rest)) : rest.length < text.length := by
  unfold marked? at h
  split at h
  · simp at h
  · simp only [Option.some.injEq, Prod.mk.injEq] at h
    simp only [← h.2, List.length_cons]
    omega
  · split at h
    · exact length_of_directive? h
    · simp only [Option.bind_eq_bind, Option.bind_eq_some_iff, Option.pure_def,
        Option.some.injEq, Prod.exists, Prod.mk.injEq] at h
      obtain ⟨_, rest', hd, _, _, _, rfl⟩ := h
      have := length_of_directive? hd
      simp only [List.length_cons]
      omega

/-- Reads a pattern, if all its directives exist. -/
def ofChars? (text : List Char) : Option Pattern :=
  match text with
  | [] => some []
  | '%' :: rest =>
    match h : marked? rest with
    | none => none
    | some (items, after) =>
      have := length_of_marked? h
      (ofChars? after).map (items ++ ·)
  | c :: rest => (ofChars? rest).map (literal [c] :: ·)
termination_by text.length

/-- Writes a date-time by a pattern, unless the pattern asks for a time zone. -/
def render? (p : Pattern) (d : DateTime) : Option (List Char) :=
  (p.mapM (PatternItem.render? d)).map List.flatten

end Pattern

namespace DateTime

/-- The text of a date-time to the second. -/
def toText (d : DateTime) : String :=
  String.ofList
    (DateField.yearDigits .zeros d.date.year ++ '-' :: DateField.twoDigits .zeros d.date.month ++
      '-' :: DateField.twoDigits .zeros d.date.day ++ 'T' :: DateField.twoDigits .zeros d.time.hour ++
      ':' :: DateField.twoDigits .zeros d.time.minute ++
      ':' :: DateField.twoDigits .zeros d.time.secondOfMinute)

/-- The text of a date-time with its fraction of a second, if there is one. -/
def toFullText (d : DateTime) : String :=
  d.toText ++ String.ofList (PatternItem.fractionChars d)

end DateTime

end Formulary
