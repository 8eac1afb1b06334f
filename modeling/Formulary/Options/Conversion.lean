import Formulary.Document.Reader
import Formulary.Fault
import Formulary.Text.Blank

/-!
# Option lists out of other data

Options come as a text, as a document from an outside service, as rows of a table, or as any value
that an expression yields. Each form has its conversion to a list of options:

* a **document** is an array of options, or an object that holds such a document under one of the
  names in `memberNames`; null stands for no options;
* a **row** gives the option in its columns `value` and `label`, or failing these in its first two;
* a **value** that is no list is a single option, but a text that opens a bracket is read as a document.
-/

namespace Formulary

namespace OptionList

/-- The names under which an object may hold its options, the first that is there counting. -/
def memberNames : List String := ["options", "items", "data"]

theorem sizeOf_lookup_lt {name : String} {members : List (String × Document)} {document : Document}
    (h : members.lookup name = some document) : sizeOf document < sizeOf members := by
  induction members with
  | nil => simp at h
  | cons member rest ih =>
    obtain ⟨other, kept⟩ := member
    rw [List.lookup_cons] at h
    split at h
    · cases h
      simp only [List.cons.sizeOf_spec, Prod.mk.sizeOf_spec]
      omega
    · have := ih h
      simp only [List.cons.sizeOf_spec]
      omega

/-- The option of each item of an array. -/
def ofItems (items : List Document) : Except Fault (List OptionItem) :=
  match items.mapM OptionItem.ofDocument? with
  | .ok options => .ok options
  | .error cause => .error (.invalidOptions (.invalidItem cause))

/-- The options in a document. -/
def ofDocument : Document → Except Fault (List OptionItem)
  | .array items => ofItems items
  | .object members =>
    match _h : memberNames.findSome? fun name => members.lookup name with
    | some document => ofDocument document
    | none => .error (.invalidOptions .noOptionMember)
  | .null => .ok []
  | other => .error (.invalidOptions (.notAnArray other.render))
termination_by document => sizeOf document
decreasing_by
  obtain ⟨name, _, found⟩ := List.exists_of_findSome?_eq_some _h
  have := sizeOf_lookup_lt found
  simp only [Document.object.sizeOf_spec]
  omega

/-- The options in a text. -/
def ofText (text : String) : Except Fault (List OptionItem) :=
  match Document.ofText? text with
  | some document => ofDocument document
  | none => .error (.invalidOptions (.unreadable text))

/-- A row of a table: its columns in ascending order of their names. -/
abbrev Row := List (String × Document)

/-- The rows in a document, if it is an array of objects. -/
def rows? (document : Document) : Option (List Row) := do
  (← document.asArray?).mapM Document.asObject?

/-- The option that a row gives. -/
def ofRow (row : Row) : Except Fault OptionItem :=
  match row.lookup "value", row with
  | some value, _ =>
    let label := (row.lookup "label").getD value
    .ok ⟨OptionItem.partText value, OptionItem.partText label⟩
  | none, (_, value) :: others =>
    let label := ((row.lookup "label").or (others.head?.map (·.2))).getD value
    .ok ⟨OptionItem.partText value, OptionItem.partText label⟩
  | none, [] => .error (.invalidOptions .emptyRow)

/-- The options that the rows of a table give. -/
def ofRows (rows : List Row) : Except Fault (List OptionItem) := rows.mapM ofRow

/-- The options that a value stands for. -/
def ofValue : Value → Except Fault (List OptionItem)
  | .optionList items => .ok items
  | .null => .ok []
  | .string s =>
    if (Text.trimStart s.toList).head? = some '[' then ofText s else .ok [.ofText s]
  | scalar => .ok [.ofText scalar.toText]

end OptionList

end Formulary
