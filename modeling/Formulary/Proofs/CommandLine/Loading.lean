import Formulary.CommandLine.Program
import Formulary.Proofs.Decimal.Rational
import Formulary.Proofs.Document.Roundtrip
import Formulary.Proofs.Outcome

/-!
# Form data is loaded as it was written

Writing a value as a document and reading it back makes its number the shortest decimal and changes nothing
else, dates aside (`Value.ofDocument?_toDocument`). Form data as a document is well-formed
(`wellFormed_dataDocument`), so the document is read as it is written, and `Files.data_written` puts both
together: what was written to a file is loaded from it.
-/

namespace Formulary

/-! ### Values -/

theorem OptionItem.ofDocument?_toDocument (item : OptionItem) : ofDocument? item.toDocument = .ok item := rfl

namespace Value

/-- The value with the shortest decimal of its number. -/
def normalize : Value → Value
  | number n => number n.normalize
  | v => v

theorem normalize_same (v : Value) : v.normalize.Same v := by
  cases v with
  | number n => exact n.normalize_same
  | _ => exact rfl

/-- **A number is written as a number**, never as a string. -/
theorem toDocument_number (n : Decimal) : (number n).toDocument = .number n.normalize.toText := by
  rw [toDocument, Document.ofNumber?_toText, Option.getD_some]

/-- **A value is read as it is written**, up to the places of its number, if it is no date. -/
theorem ofDocument?_toDocument {v : Value} (hdate : ∀ d, v ≠ dateTime d) :
    ofDocument? v.toDocument = .ok v.normalize := by
  cases v with
  | number n => rw [toDocument_number, ofDocument?, Decimal.ofNumeral?_toText_normalize]; rfl
  | boolean b => rfl
  | string s => rfl
  | dateTime d => exact absurd rfl (hdate d)
  | optionList items =>
    have hitems : (items.map OptionItem.toDocument).mapM OptionItem.ofDocument? = .ok (items.map id) :=
      mapM_map_eq_ok fun item _ => item.ofDocument?_toDocument
    rw [toDocument, ofDocument?, hitems, List.map_id]
    rfl
  | null => rfl

open Document in
/-- What a value is written as is well-formed: options are objects in an array. -/
theorem wellFormed_toDocument (v : Value) (depth : Nat) : v.toDocument.WellFormed (depth + 2) := by
  cases v with
  | number n =>
    rw [toDocument_number]
    refine .number ?_
    rw [Decimal.toText, String.toList_ofList]
    exact number?_toChars _
  | boolean b => exact .bool b
  | string s => exact .string s
  | dateTime d => exact .string _
  | optionList items =>
    refine .array fun document hdocument => ?_
    obtain ⟨item, -, rfl⟩ := List.mem_map.mp hdocument
    -- the two members of an option stand in the order of their names
    have hsorted : "label" < "value" := by decide
    refine .object (List.pairwise_pair.mpr hsorted) fun member hmember => ?_
    rcases List.mem_cons.mp hmember with rfl | hmember
    · exact .string item.label
    · obtain rfl := List.mem_singleton.mp hmember
      exact .string item.value
  | null => exact .null

end Value

namespace CommandLine

open Document in
theorem wellFormed_dataDocument (data : FormData) (depth : Nat) :
    (dataDocument data).WellFormed (depth + 3) := by
  refine .object (data.map Value.toDocument).ascending fun member hmember => ?_
  obtain ⟨entry, -, rfl⟩ := List.mem_map.mp hmember
  exact entry.2.wellFormed_toDocument depth

namespace Files

/-- The members of form data as a document are read as the data, up to the places of numbers. -/
theorem mapM_value {data : FormData} (hdates : ∀ name d, data.get? name ≠ some (.dateTime d)) :
    (data.map Value.toDocument).entries.mapM value = .ok (data.map Value.normalize).entries := by
  refine mapM_map_eq_ok fun entry hentry => ?_
  have hget : data.get? entry.1 = some entry.2 := (NameMap.get?_eq_some_iff ..).mpr hentry
  have hread := Value.ofDocument?_toDocument fun d heq => hdates entry.1 d (hget.trans (congrArg some heq))
  rw [value, hread]

theorem document_eq {files : Files} {path text : String} {d : Document} (hfile : files path = .ok text)
    (hread : Document.ofText? text = some d) : files.document path = .ok d := by
  rw [document, hfile]
  dsimp only
  rw [hread]

/-- **Form data is loaded as it was written.** Form data of any numbers, truth values, texts, options and
missing values, but no dates, is written to a file as a JSON object, without white space or over several lines.
Loading the file succeeds; it gives the same names, and each of them stands for the same value, a number for
the same decimal number.

A name `$serde_json::private::Number` in the data is excluded: readers may take it for a mark of their own, and
`Document.ofText?` does not say what they make of it. -/
theorem data_written (data : FormData) (files : Files) (path : String)
    (hdates : ∀ name d, data.get? name ≠ some (.dateTime d))
    (hfile : files path = .ok (dataDocument data).render ∨
      files path = .ok (dataDocument data).renderPretty) :
    ∃ loaded : FormData, files.data path = .ok loaded ∧ loaded.names = data.names ∧
      ∀ name value, data.get? name = some value →
        ∃ back, loaded.get? name = some back ∧ back.Same value := by
  refine ⟨data.map Value.normalize, ?_, ?_, ?_⟩
  · -- an option in a list in the data is three levels deep, and 127 are read
    have hdata : (dataDocument data).WellFormed Document.maxDepth := wellFormed_dataDocument data 124
    have hdocument : files.document path = .ok (dataDocument data) := by
      rcases hfile with hfile | hfile
      · exact document_eq hfile (Document.ofText?_render hdata)
      · exact document_eq hfile (Document.ofText?_renderPretty hdata)
    have hmembers : (dataDocument data).asObject? = some (data.map Value.toDocument).entries := rfl
    rw [Files.data, hdocument, ok_bind, hmembers]
    dsimp only
    rw [mapM_value hdates, ok_bind, NameMap.ofList_entries]
    rfl
  · exact NameMap.names_map data Value.normalize
  · intro name value hvalue
    refine ⟨value.normalize, ?_, value.normalize_same⟩
    rw [NameMap.get?_map, hvalue, Option.map_some]

/-- An order that holds a value of every kind but a date: a number with places to spare, a zero with a minus,
and texts in which something has to be escaped. -/
def order : FormData where
  entries :=
    [("amount", .number ((Decimal.ofText? "-12.500").getD .zero)),
      ("discount", .number (-.zero)),
      ("gift", .boolean true),
      ("note", .string "Größe \"M\"\n\x01"),
      ("size", .optionList [⟨"m", "M \\ 中"⟩, .ofText ""]),
      ("voucher", .null)]
  ascending := by decide

example : (dataDocument order).render =
    "\x7b\"amount\":-12.5,\"discount\":0,\"gift\":true,\"note\":\"Größe \\\"M\\\"\\n\\u0001\"," ++
      "\"size\":[\x7b\"label\":\"M \\\\ 中\",\"value\":\"m\"\x7d,\x7b\"label\":\"\",\"value\":\"\"\x7d]," ++
      "\"voucher\":null\x7d" := by
  decide +kernel

/-- The order is loaded from a file to which it was written over several lines. -/
theorem data_written_order :
    (∀ name d, order.get? name ≠ some (.dateTime d)) ∧
      ∃ loaded : FormData,
        Files.data (fun _ => .ok (dataDocument order).renderPretty) "order.json" = .ok loaded ∧
        loaded.names = order.names ∧
        ∀ name value, order.get? name = some value →
          ∃ back, loaded.get? name = some back ∧ back.Same value := by
  have hdates : ∀ name d, order.get? name ≠ some (.dateTime d) := by
    intro name d h
    have hmem := (NameMap.get?_eq_some_iff order name _).mp h
    simp [order] at hmem
  exact ⟨hdates, data_written order _ "order.json" hdates (Or.inr rfl)⟩

end Files

end CommandLine

end Formulary
