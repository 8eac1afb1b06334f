import Formulary.Proofs.Document.Reading
import Formulary.Proofs.Text.Classes

/-!
# The grammar of documents

Which texts are JSON, said without the reader. `IsWritten` takes a text apart into values, the members of
objects, and lists of either with commas between them; `IsArrayText` is a whole text that is an array, with
white space around it.

The grammar says nothing of what a reader may refuse besides: arrays and objects may be nested as deep as one
likes, and a code behind a backslash may be any four hexadecimal digits, those of half a character included.

It is told which letters may stand behind a backslash. With all of `escapes` it is the grammar of documents;
without the quote among them it is that of the documents with no quote in a string.
-/

namespace Formulary.Document

/-! ### Strings -/

/-- What may stand behind a backslash in a string, besides a code. -/
def escapes : List Char := ['"', '\\', '/', 'b', 'f', 'n', 'r', 't']

/-- The inside of a string; behind a backslash stand a code or one of the letters. -/
inductive IsBody (letters : List Char) : List Char → Prop where
  | nil : IsBody letters []
  | plain {c : Char} {rest : List Char} (hcontrol : 0x20 ≤ c.toNat) (hquote : c ≠ '"')
    (hbackslash : c ≠ '\\') (h : IsBody letters rest) : IsBody letters (c :: rest)
  | letter {c : Char} {rest : List Char} (hc : c ∈ letters) (h : IsBody letters rest) :
    IsBody letters ('\\' :: c :: rest)
  | code {a b c d : Char} {rest : List Char} (hdigits : ∀ x ∈ [a, b, c, d], (hexDigit? x).isSome)
    (h : IsBody letters rest) : IsBody letters ('\\' :: 'u' :: a :: b :: c :: d :: rest)

/-- Characters that need no backslash stand in a string as they are. -/
theorem isBody_of_forall {letters text : List Char}
    (h : ∀ c ∈ text, 0x20 ≤ c.toNat ∧ c ≠ '"' ∧ c ≠ '\\') : IsBody letters text := by
  induction text with
  | nil => exact .nil
  | cons c text ih =>
    obtain ⟨⟨hcontrol, hquote, hbackslash⟩, htext⟩ := List.forall_mem_cons.mp h
    exact .plain hcontrol hquote hbackslash (ih htext)

/-- A letter may stand behind a backslash if it stands for a character there. -/
theorem mem_escapes_iff {c : Char} : c ∈ escapes ↔ ∃ d, unescapeLetter? c = some d := by
  constructor
  · intro h
    have hall : ∀ c ∈ escapes, (unescapeLetter? c).isSome = true := Text.forall_mem_of_all (by decide)
    exact Option.isSome_iff_exists.mp (hall c h)
  · rintro ⟨d, h⟩
    rw [unescapeLetter?.eq_def] at h
    split at h
    case h_9 => exact absurd h (by simp)
    all_goals decide

/-- A code has a value if all of it are hexadecimal digits. -/
theorem exists_hexQuad?_iff {a b c d : Char} :
    (∃ quad, hexQuad? a b c d = some quad) ↔ ∀ x ∈ [a, b, c, d], (hexDigit? x).isSome := by
  simp only [List.forall_mem_cons, Option.isSome_iff_exists, hexQuad?, Option.bind_eq_bind,
    Option.pure_def, Option.bind_eq_some_iff]
  constructor
  · rintro ⟨quad, i, ha, j, hb, k, hc, l, hd, -⟩
    exact ⟨⟨i, ha⟩, ⟨j, hb⟩, ⟨k, hc⟩, ⟨l, hd⟩, by simp⟩
  · rintro ⟨⟨i, ha⟩, ⟨j, hb⟩, ⟨k, hc⟩, ⟨l, hd⟩, -⟩
    exact ⟨_, i, ha, j, hb, k, hc, l, hd, rfl⟩

/-! ### Numbers -/

/-- One or more digits. -/
def IsDigits (text : List Char) : Prop := text ≠ [] ∧ ∀ c ∈ text, c.isDigit = true

/-- The digits before the point: no zero stands before another digit. -/
def IsWhole (text : List Char) : Prop := IsDigits text ∧ ∀ more, text = '0' :: more → more = []

/-- The places behind the point, if there are any. -/
inductive IsPlaces : List Char → Prop where
  | absent : IsPlaces []
  | present {digits : List Char} (h : IsDigits digits) : IsPlaces ('.' :: digits)

/-- The exponent, if there is one. -/
inductive IsExponent : List Char → Prop where
  | absent : IsExponent []
  | present {mark : Char} {sign digits : List Char} (hmark : mark = 'e' ∨ mark = 'E')
    (hsign : sign ∈ [[], ['+'], ['-']]) (h : IsDigits digits) : IsExponent (mark :: (sign ++ digits))

/-- A number. -/
inductive IsNumber : List Char → Prop where
  | intro {sign whole places exponent : List Char} (hsign : sign ∈ [[], ['-']]) (hwhole : IsWhole whole)
    (hplaces : IsPlaces places) (hexponent : IsExponent exponent) :
    IsNumber (sign ++ (whole ++ (places ++ exponent)))

/-! ### Values -/

/-- The words that are values. -/
def words : List (List Char) := ["null".toList, "true".toList, "false".toList]

theorem mem_words_iff {text : List Char} :
    text ∈ words ↔ text = "null".toList ∨ text = "true".toList ∨ text = "false".toList := by
  simp [words]

/-- What stands between brackets. -/
inductive Element where
  /-- A value, as in an array. -/
  | value
  /-- A name and its value, as in an object. -/
  | member

/-- A part of a document. -/
inductive Part where
  /-- A single element. -/
  | one (e : Element)
  /-- One or more elements with commas between them, and white space around each. -/
  | several (e : Element)

/-- The text is such a part of a document, with these letters behind backslashes. -/
inductive IsWritten (letters : List Char) : Part → List Char → Prop where
  | word {text : List Char} (h : text ∈ words) : IsWritten letters (.one .value) text
  | number {text : List Char} (h : IsNumber text) : IsWritten letters (.one .value) text
  | string {body : List Char} (h : IsBody letters body) :
    IsWritten letters (.one .value) ('"' :: (body ++ ['"']))
  | emptyArray {gap : List Char} (hgap : IsGap gap) :
    IsWritten letters (.one .value) ('[' :: (gap ++ [']']))
  | array {text : List Char} (h : IsWritten letters (.several .value) text) :
    IsWritten letters (.one .value) ('[' :: (text ++ [']']))
  | emptyObject {gap : List Char} (hgap : IsGap gap) :
    IsWritten letters (.one .value) ('\x7b' :: (gap ++ ['\x7d']))
  | object {text : List Char} (h : IsWritten letters (.several .member) text) :
    IsWritten letters (.one .value) ('\x7b' :: (text ++ ['\x7d']))
  | member {body before after text : List Char} (hbody : IsBody letters body) (hbefore : IsGap before)
    (hafter : IsGap after) (h : IsWritten letters (.one .value) text) :
    IsWritten letters (.one .member) ('"' :: (body ++ '"' :: (before ++ ':' :: (after ++ text))))
  | last {e : Element} {before text after : List Char} (hbefore : IsGap before)
    (h : IsWritten letters (.one e) text) (hafter : IsGap after) :
    IsWritten letters (.several e) (before ++ (text ++ after))
  | more {e : Element} {before text after others : List Char} (hbefore : IsGap before)
    (h : IsWritten letters (.one e) text) (hafter : IsGap after)
    (hmore : IsWritten letters (.several e) others) :
    IsWritten letters (.several e) (before ++ (text ++ (after ++ ',' :: others)))

/-- **A text that is a JSON array**, with white space around it. -/
inductive IsArrayText (letters : List Char) : List Char → Prop where
  | intro {before array after : List Char} (hbefore : IsGap before)
    (harray : IsWritten letters (.one .value) ('[' :: array)) (hafter : IsGap after) :
    IsArrayText letters (before ++ ('[' :: array ++ after))

end Formulary.Document
