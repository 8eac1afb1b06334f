import Formulary.Function.Definition

/-!
# The functions there are

The definitions of all functions, group by group.
-/

namespace Formulary.Builtin

/-- A number is wanted. -/
abbrev number : ArgumentKind := .only .number

/-- A truth value is wanted. -/
abbrev boolean : ArgumentKind := .only .boolean

/-- A text is wanted. -/
abbrev string : ArgumentKind := .only .string

/-- A date with a time of day is wanted. -/
abbrev dateTime : ArgumentKind := .only .dateTime

/-- An option list is wanted. -/
abbrev optionList : ArgumentKind := .only .optionList

/-- A function on numbers. -/
def onNumbers (name : String) (least : Nat) (most : Option Nat) (kinds : List ArgumentKind)
    (description : String) (f : Eager) : Definition :=
  ⟨name, least, most, kinds, number, .arithmetic, description, .eager f, false, false⟩

/-- Functions on numbers. -/
def arithmetic : List Definition :=
  [onNumbers "ADD" 2 none [number] "Sum of all arguments" .add,
    onNumbers "SUBTRACT" 2 (some 2) [number, number] "First argument minus the second" .subtract,
    onNumbers "MULTIPLY" 2 none [number] "Product of all arguments" .multiply,
    onNumbers "DIVIDE" 2 (some 2) [number, number] "First argument divided by the second" .divide,
    onNumbers "ROUND" 1 (some 2) [number, number]
      "Round to the given number of decimal places (midpoint to even)" .round,
    onNumbers "ABS" 1 (some 1) [number] "Absolute value" .abs,
    onNumbers "MIN" 1 none [number] "Smallest argument" .min,
    onNumbers "MAX" 1 none [number] "Largest argument" .max]

/-- Functions on conditions. -/
def logical : List Definition :=
  [⟨"IF", 2, some 3, [boolean, .any, .any], .any, .logical,
      "Second argument when the condition holds, otherwise the third (or null)", .lazy .ifElse,
      false, false⟩,
    ⟨"AND", 1, none, [boolean], boolean, .logical,
      "True when every argument is true; stops at the first false", .lazy .and, false, false⟩,
    ⟨"OR", 1, none, [boolean], boolean, .logical,
      "True when any argument is true; stops at the first true", .lazy .or, false, false⟩,
    ⟨"NOT", 1, some 1, [boolean], boolean, .logical, "Logical negation", .eager .not, false, false⟩]

/-- A test of two values. -/
def test (name description : String) (f : Eager) : Definition :=
  ⟨name, 2, some 2, [.any, .any], boolean, .comparison, description, .eager f, false, false⟩

/-- Comparisons. -/
def comparison : List Definition :=
  [test "EQUALS" "True when both arguments are equal" .equals,
    test "GREATER_THAN" "True when the first argument is greater than the second" .greaterThan,
    test "LESS_THAN" "True when the first argument is less than the second" .lessThan]

/-- A function on a text, or on several. -/
def onText (name : String) (least : Nat) (most : Option Nat) (kinds : List ArgumentKind)
    (returns : ArgumentKind) (description : String) (f : Eager) : Definition :=
  ⟨name, least, most, kinds, returns, .text, description, .eager f, false, false⟩

/-- Functions on texts. -/
def text : List Definition :=
  [onText "CONCAT" 1 none [string] string "Join all arguments as text" .concat,
    onText "UPPER" 1 (some 1) [string] string "Convert to uppercase" .upper,
    onText "LOWER" 1 (some 1) [string] string "Convert to lowercase" .lower,
    onText "TRIM" 1 (some 1) [string] string "Remove leading and trailing whitespace" .trim,
    onText "CONTAINS" 2 (some 2) [string, string] boolean
      "True when the first text contains the second (case-sensitive)" .contains,
    onText "LENGTH" 1 (some 1) [string] number "Number of characters" .length,
    onText "SUBSTRING" 2 (some 3) [string, number, number] string
      "Characters from a 0-based start, optionally limited to a length" .substring]

/-- Functions on dates. -/
def date : List Definition :=
  [⟨"NOW", 0, some 0, [], dateTime, .date, "Current date and time", .eager .now, true, false⟩,
    ⟨"TODAY", 0, some 0, [], dateTime, .date, "Current date at midnight", .eager .today, true,
      false⟩,
    ⟨"DATE_ADD", 3, some 3, [dateTime, number, string], dateTime, .date,
      "Add an amount of days, months, years, hours, minutes or seconds", .eager .dateAdd, false,
      false⟩,
    ⟨"DATE_DIFF", 3, some 3, [dateTime, dateTime, string], number, .date,
      "Whole units from the first date to the second", .eager .dateDiff, false, false⟩,
    ⟨"FORMAT_DATE", 2, some 2, [dateTime, string], string, .date, "Format with a strftime pattern",
      .eager .formatDate, false, false⟩]

/-- Functions on absent values. -/
def null : List Definition :=
  [⟨"IS_NULL", 1, some 1, [.any], boolean, .null,
      "True when the argument is null or an absent variable", .lazy .isNull, false, false⟩,
    ⟨"IS_EMPTY", 1, some 1, [.any], boolean, .null,
      "True for null, blank text or an empty option list", .eager .isEmpty, false, false⟩,
    ⟨"COALESCE", 1, none, [.any], .any, .null, "First argument that is not null", .eager .coalesce,
      false, false⟩]

/-- Functions that yield options. -/
def options : List Definition :=
  [⟨"STATIC", 1, some 1, [optionList], optionList, .options, "Literal option list from a JSON array",
      .eager .static, false, true⟩,
    ⟨"API", 1, none, [string, .any], optionList, .options,
      "Options from an API endpoint; remaining arguments are parameters", .external, false, true⟩,
    ⟨"DATABASE", 1, none, [string, .any], optionList, .options,
      "Options from a database query; remaining arguments are parameters", .external, false, true⟩]

/-- All functions. -/
def all : List Definition := arithmetic ++ logical ++ comparison ++ text ++ date ++ null ++ options

end Formulary.Builtin
