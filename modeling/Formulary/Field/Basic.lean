import Formulary.Value.Basic

/-!
# Fields

A form is a list of fields. Besides its name and type a field may carry expressions: the formula that
computes its value, the expression its options come from, a condition under which further rules
apply, and a rule across several fields. All of them are kept as text.

`Field.expressions` lists the expressions of a field, each with the **role** it plays.
-/

namespace Formulary

/-- What a formula is meant to yield. It guides authors and has no part in evaluation. -/
inductive FormulaKind where
  | arithmetic
  | boolean
  | string
  | dateTime
  | conditional
deriving DecidableEq, Repr

namespace FormulaKind

/-- The name of a kind of formula. -/
def name : FormulaKind → String
  | arithmetic => "arithmetic"
  | boolean => "boolean"
  | string => "string"
  | dateTime => "date_time"
  | conditional => "conditional"

/-- The kinds of formula. -/
def all : List FormulaKind := [arithmetic, boolean, string, dateTime, conditional]

/-- The kind of value that such a formula yields, if it is always the same. -/
def expectedKind? : FormulaKind → Option ValueKind
  | arithmetic => some .number
  | boolean => some .boolean
  | string => some .string
  | dateTime => some .dateTime
  | conditional => none

end FormulaKind

/-- The text of a formula with its kind. -/
structure Formula where
  /-- The expression. -/
  text : String
  /-- What it is meant to yield. -/
  kind : FormulaKind
deriving DecidableEq, Repr

/-- The type of a field. -/
inductive FieldType where
  | text
  | number
  | boolean
  | date
  | select
  | multiSelect
deriving DecidableEq, Repr

namespace FieldType

/-- The name of a field type. -/
def name : FieldType → String
  | text => "text"
  | number => "number"
  | boolean => "boolean"
  | date => "date"
  | select => "select"
  | multiSelect => "multi_select"

/-- The field types. -/
def all : List FieldType := [text, number, boolean, date, select, multiSelect]

/-- What a field of this type holds before anything is entered or computed. -/
def defaultValue : FieldType → Value
  | text => .string ""
  | number => .number .zero
  | boolean => .boolean false
  | date => .null
  | select => .null
  | multiSelect => .optionList []

/-- The kind that a formula of such a field usually has. -/
def formulaKind : FieldType → FormulaKind
  | text => .string
  | number => .arithmetic
  | boolean => .boolean
  | date => .dateTime
  | select => .conditional
  | multiSelect => .conditional

end FieldType

/-- A rule for the value of a field. -/
structure ValidationRule where
  /-- The name of the rule. -/
  rule : String
  /-- What the rule is given. -/
  argument : Option String
  /-- What is shown when the rule is broken. -/
  message : Option String
deriving DecidableEq, Repr

/-- A rule without argument and message. -/
def ValidationRule.named (rule : String) : ValidationRule := ⟨rule, none, none⟩

/-- Rules that apply while a condition holds. -/
structure ConditionalRules where
  /-- The condition. -/
  condition : String
  /-- The rules. -/
  rules : List ValidationRule
deriving DecidableEq, Repr

/-- A condition across several fields that has to hold. -/
structure CrossFieldRule where
  /-- The condition. -/
  expression : String
  /-- What is shown when it does not hold. -/
  message : String
deriving DecidableEq, Repr

/-- A field of a form. -/
structure Field where
  /-- The name, by which expressions refer to the field. -/
  name : String
  /-- The type. -/
  type : FieldType
  /-- The formula that computes the value. -/
  formula : Option Formula := none
  /-- The expression that the options come from. -/
  dynamicOptions : Option String := none
  /-- Rules that apply under a condition. -/
  conditional : Option ConditionalRules := none
  /-- A rule across several fields. -/
  crossField : Option CrossFieldRule := none
deriving DecidableEq, Repr

/-- The part an expression plays in its field. -/
inductive Role where
  /-- It computes the value. -/
  | formula
  /-- It yields the options. -/
  | options
  /-- It decides whether rules apply. -/
  | condition
  /-- It has to hold across fields. -/
  | crossField
deriving DecidableEq, Repr

/-- The name of a role. -/
def Role.name : Role → String
  | formula => "formula"
  | options => "options"
  | condition => "condition"
  | crossField => "cross-field"

namespace Field

/-- Whether the value of the field is computed. -/
def isCalculated (f : Field) : Bool := f.formula.isSome

/-- The text of the formula. -/
def formulaText? (f : Field) : Option String := f.formula.map Formula.text

/-- The expressions of a field in the order of their roles. -/
def expressions (f : Field) : List (Role × String) :=
  (f.formulaText?.map (Role.formula, ·)).toList ++
    (f.dynamicOptions.map (Role.options, ·)).toList ++
    (f.conditional.map fun c => (Role.condition, c.condition)).toList ++
    (f.crossField.map fun c => (Role.crossField, c.expression)).toList

/-- Gives the field a formula, whose kind follows from the type. -/
def withFormula (f : Field) (text : String) : Field :=
  { f with formula := some ⟨text, f.type.formulaKind⟩ }

/-- Gives the field an expression for its options. -/
def withDynamicOptions (f : Field) (text : String) : Field := { f with dynamicOptions := some text }

/-- Gives the field rules that apply under a condition. -/
def withCondition (f : Field) (condition : String) (rules : List ValidationRule) : Field :=
  { f with conditional := some ⟨condition, rules⟩ }

/-- Gives the field a rule across several fields. -/
def withCrossField (f : Field) (expression message : String) : Field :=
  { f with crossField := some ⟨expression, message⟩ }

end Field

end Formulary
