import Formulary.Document.Basic
import Formulary.Field.Basic

/-!
# Fields as documents

A record is written as an object with all its members, absent ones as null. It is read from an object,
whose unknown members do not matter, or from an array that gives the members in their order and may
leave out the last ones. A name out of a fixed list is a string, or an object that gives it null.
-/

namespace Formulary

namespace Document

/-- The members of a record, each if it is there. -/
def record? (names : List String) : Document → Option (List (Option Document))
  | object members => some (names.map fun name => members.lookup name)
  | array items =>
    if names.length < items.length then none
    else some (items.map some ++ List.replicate (names.length - items.length) none)
  | _ => none

/-- Reads a member that may be absent or null. -/
def optional? {α : Type} (read : Document → Option α) : Option Document → Option (Option α)
  | none => some none
  | some null => some none
  | some document => (read document).map some

/-- Reads one of the names in a list. -/
def choice? {α : Type} (name : α → String) (all : List α) : Document → Option α
  | string s => all.find? fun a => name a = s
  | object [(s, null)] => all.find? fun a => name a = s
  | _ => none

/-- Reads a member that may be absent, in which case it is `default`, but not null. -/
def choiceOr? {α : Type} (name : α → String) (all : List α) (default : α) :
    Option Document → Option α
  | none => some default
  | some document => choice? name all document

end Document

/-- Reads a formula. -/
def Formula.ofDocument? (document : Document) : Option Formula := do
  match ← document.record? ["text", "kind"] with
  | [text, kind] =>
    some ⟨← (← text).asString?, ← Document.choiceOr? FormulaKind.name FormulaKind.all .arithmetic kind⟩
  | _ => none

/-- A formula as a document. -/
def Formula.toDocument (f : Formula) : Document :=
  .ofMembers [("text", .string f.text), ("kind", .string f.kind.name)]

/-- Reads a rule. -/
def ValidationRule.ofDocument? (document : Document) : Option ValidationRule := do
  match ← document.record? ["rule", "argument", "message"] with
  | [rule, argument, message] =>
    some ⟨← (← rule).asString?, ← Document.optional? Document.asString? argument,
      ← Document.optional? Document.asString? message⟩
  | _ => none

/-- A rule as a document. -/
def ValidationRule.toDocument (r : ValidationRule) : Document :=
  .ofMembers
    [("rule", .string r.rule), ("argument", .ofOption .string r.argument),
      ("message", .ofOption .string r.message)]

/-- Reads rules that apply under a condition. -/
def ConditionalRules.ofDocument? (document : Document) : Option ConditionalRules := do
  match ← document.record? ["condition", "rules"] with
  | [condition, rules] =>
    some ⟨← (← condition).asString?,
      ← (← (← rules).asArray?).mapM ValidationRule.ofDocument?⟩
  | _ => none

/-- Rules that apply under a condition as a document. -/
def ConditionalRules.toDocument (c : ConditionalRules) : Document :=
  .ofMembers
    [("condition", .string c.condition), ("rules", .array (c.rules.map ValidationRule.toDocument))]

/-- Reads a rule across several fields. -/
def CrossFieldRule.ofDocument? (document : Document) : Option CrossFieldRule := do
  match ← document.record? ["expression", "message"] with
  | [expression, message] => some ⟨← (← expression).asString?, ← (← message).asString?⟩
  | _ => none

/-- A rule across several fields as a document. -/
def CrossFieldRule.toDocument (c : CrossFieldRule) : Document :=
  .ofMembers [("expression", .string c.expression), ("message", .string c.message)]

namespace Field

/-- The names of the members of a field. -/
def memberNames : List String :=
  ["name", "type", "formula", "dynamic_options", "conditional_validation", "cross_field_validation"]

/-- Reads a field. -/
def ofDocument? (document : Document) : Option Field := do
  match ← document.record? memberNames with
  | [name, type, formula, dynamicOptions, conditional, crossField] =>
    some
      { name := ← (← name).asString?
        type := ← Document.choiceOr? FieldType.name FieldType.all .text type
        formula := ← Document.optional? Formula.ofDocument? formula
        dynamicOptions := ← Document.optional? Document.asString? dynamicOptions
        conditional := ← Document.optional? ConditionalRules.ofDocument? conditional
        crossField := ← Document.optional? CrossFieldRule.ofDocument? crossField }
  | _ => none

/-- Reads the fields of a form. -/
def listOfDocument? (document : Document) : Option (List Field) := do
  (← document.asArray?).mapM ofDocument?

/-- A field as a document. -/
def toDocument (f : Field) : Document :=
  .ofMembers
    [("name", .string f.name), ("type", .string f.type.name),
      ("formula", .ofOption Formula.toDocument f.formula),
      ("dynamic_options", .ofOption .string f.dynamicOptions),
      ("conditional_validation", .ofOption ConditionalRules.toDocument f.conditional),
      ("cross_field_validation", .ofOption CrossFieldRule.toDocument f.crossField)]

end Field

end Formulary
