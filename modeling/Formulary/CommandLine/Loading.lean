import Formulary.CommandLine.Failure
import Formulary.Field.Coding
import Formulary.Options.Provider

/-!
# Loading files

What the files that a command reads hold: form data, the fields of a form, or canned answers of the
providers. All of them are JSON.
-/

namespace Formulary.CommandLine

/-- The files that there are: a path has a text, or a reason why it cannot be read. -/
abbrev Files := String → Except String String

namespace Files

/-- The document in a file. -/
def document (files : Files) (path : String) : Except Failure Document :=
  match files path with
  | .error reason => .error ⟨s!"Failed to read: {path}", [reason]⟩
  | .ok text =>
    match Document.ofText? text with
    | some document => .ok document
    | none => .error ⟨s!"Invalid JSON in: {path}", []⟩

/-- The fields in a file. -/
def fields (files : Files) (path : String) : Except Failure (List Field) := do
  match Field.listOfDocument? (← files.document path) with
  | some fields => return fields
  | none => throw ⟨s!"Invalid field definitions in: {path}", []⟩

/-- The value of a member of form data. -/
def value (member : String × Document) : Except Failure (String × Value) :=
  match Value.ofDocument? member.2 with
  | .ok v => .ok (member.1, v)
  | .error cause => .error ⟨s!"Invalid value for field '{member.1}'", [cause.message]⟩

/-- The form data in a file. -/
def data (files : Files) (path : String) : Except Failure FormData := do
  match (← files.document path).asObject? with
  | some members => return .ofList (← members.mapM value)
  | none => throw ⟨s!"Form data must be a JSON object: {path}", []⟩

/-- The form data in a file, or none at all. -/
def dataOrNone (files : Files) : Option String → Except Failure FormData
  | some path => files.data path
  | none => .ok .empty

/-- The rows of a canned query. -/
def table (member : String × Document) : Except Failure (String × List OptionList.Row) :=
  match OptionList.rows? member.2 with
  | some rows => .ok (member.1, rows)
  | none => .error ⟨s!"Rows for '{member.1}' must be an array of objects", []⟩

/-- The providers whose canned answers are in a file, as members of `api` and of `database`. -/
def providers (files : Files) (path : String) : Except Failure Providers := do
  let document ← files.document path
  let membersOf (name : String) := ((document.get? name).bind Document.asObject?).getD []
  let tables ← (membersOf "database").mapM table
  return {
    api := some (Providers.ofResponses (.ofList (membersOf "api")))
    database := some (Providers.ofTables (.ofList tables)) }

end Files

end Formulary.CommandLine
