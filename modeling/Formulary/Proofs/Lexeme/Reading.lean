import Formulary.Proofs.Outcome
import Formulary.Proofs.Text.Classes
import Formulary.Proofs.Text.Spans
import Formulary.Lexeme.Reader

/-!
# What a lexeme is read from

A reader of lexemes takes a lexeme off the front of a text and leaves the rest. `Written` says how the part
that was taken and the rest go with the lexeme: a name is taken as it stands and as far as it goes, and a
symbol has no character of a word in it. `read_eq_ok` is this inversion for any lexeme.
-/

namespace Formulary

namespace Lexeme

/-- The characters of symbols. -/
def symbolChars : List Char := "+-*/,()<>=!&|".toList

/-- How a lexeme can be written in a text that goes on with `rest`. -/
def Written (written rest : List Char) : Lexeme → Prop
  | literal _ => True
  | name s => written = s.toList ∧ (∀ c ∈ s.toList, isNameChar c = true) ∧
      ∀ c ∈ rest.head?, isNameChar c = false
  | var s => written = '$' :: s.toList ∧ (∀ c ∈ s.toList, isNameChar c = true) ∧
      ∀ c ∈ rest.head?, isNameChar c = false
  | symbol _ => ∀ c ∈ written, c ∈ symbolChars

/-- A lexeme and how it was written at the front of the text that it was read from. -/
def TakenFrom (text : List Char) (t : Taken Lexeme text) : Prop :=
  ∃ written, text = written ++ t.rest ∧ Written written t.rest t.value

variable {position : Nat} {text : List Char}

/-! ### Symbols and literals -/

theorem symbol?_eq_some {t : Taken Symbol text} (h : symbol? text = some t) :
    ∃ written, text = written ++ t.rest ∧
      ∀ c ∈ written, c ∈ symbolChars := by
  unfold symbol? at h
  split at h
  all_goals cases h
  all_goals
    first
    | exact ⟨[_], rfl, Text.forall_mem_of_all (by decide)⟩
    | exact ⟨[_, _], rfl, Text.forall_mem_of_all (by decide)⟩

theorem rest_suffix_of_brackets? {state : BracketState} {nesting : Nat} {t : Taken Unit text}
    (h : brackets? state nesting text = some t) : t.rest <:+ text := by
  fun_induction brackets? state nesting text
  case case1 => exact absurd h (by simp)
  case case6 =>
    obtain rfl := Option.some.inj h
    exact List.suffix_cons _ _
  -- all else goes on behind one more character
  all_goals
    rename_i ih
    obtain ⟨t, ht, rfl⟩ := Option.map_eq_some_iff.mp h
    exact (ih ht).trans (List.suffix_cons _ _)

theorem bracketed_eq_ok {t : Taken Lexeme text} (h : bracketed position text = .ok t) :
    TakenFrom text t := by
  rw [bracketed] at h
  split at h
  · exact absurd h (by simp)
  · next t' ht' =>
    obtain ⟨written, htext⟩ := rest_suffix_of_brackets? ht'
    obtain ⟨v, -, rfl⟩ := map_eq_ok_iff.mp h
    exact ⟨written, htext.symm, trivial⟩

theorem number?_eq_ok {t : Taken Lexeme text} (h : number? position text = .ok (some t)) :
    TakenFrom text t := by
  rw [number?] at h
  split at h
  · exact absurd h (by simp)
  · next n _ =>
    obtain ⟨hvalue, hrest⟩ := Taken.of?_eq_some (Except.ok.inj h)
    obtain ⟨written, htext⟩ := List.drop_suffix _ text
    refine ⟨written, by rw [hrest, htext], ?_⟩
    rw [hvalue]
    exact trivial

/-! ### Names -/

theorem ofName_cases (name rest : List Char) :
    ofName name rest = .name (String.ofList name) ∨ ∃ v, ofName name rest = .literal v := by
  rw [ofName]
  split
  · exact Or.inl rfl
  · cases keyword? name with
    | none => exact Or.inl rfl
    | some v => exact Or.inr ⟨v, rfl⟩

theorem name?_eq_some {t : Taken Lexeme text} (h : name? text = some t) : TakenFrom text t := by
  obtain ⟨hvalue, hrest⟩ := Taken.of?_eq_some h
  refine ⟨text.takeWhile isNameChar, by rw [hrest, List.takeWhile_append_dropWhile], ?_⟩
  rw [hvalue, hrest]
  rcases ofName_cases (text.takeWhile isNameChar) (text.dropWhile isNameChar) with
    hname | ⟨v, hliteral⟩
  · rw [hname]
    refine ⟨String.toList_ofList.symm, fun c hc => ?_, fun c => eq_false_of_mem_head?_dropWhile⟩
    rw [String.toList_ofList] at hc
    exact List.mem_takeWhile_imp hc
  · rw [hliteral]
    exact trivial

theorem marked_eq_ok {rest : List Char} {t : Taken Lexeme ('$' :: rest)}
    (h : marked position rest = .ok t) : TakenFrom ('$' :: rest) t := by
  rw [marked] at h
  split at h
  · exact absurd h (by simp)
  · obtain rfl := Except.ok.inj h
    refine ⟨'$' :: rest.takeWhile isNameChar, ?_, ?_, fun c hc => ?_,
      fun c => eq_false_of_mem_head?_dropWhile⟩
    · rw [List.cons_append, List.takeWhile_append_dropWhile]
    · rw [String.toList_ofList]
    · rw [String.toList_ofList] at hc
      exact List.mem_takeWhile_imp hc

/-! ### Any lexeme -/

/-- A lexeme is written at the front of the text that it is read from. -/
theorem read_eq_ok {t : Taken Lexeme text} (h : read position text = .ok (some t)) :
    TakenFrom text t := by
  unfold read at h
  split at h
  · exact absurd h (by simp)
  · next rest =>
    obtain ⟨t', ht', ht⟩ := map_eq_ok_iff.mp h
    obtain rfl := Option.some.inj ht
    exact marked_eq_ok ht'
  · next c rest _ =>
    -- the tests in the order of the reader: a symbol, half of one, a quote, a list, a number, a name
    cases hsymbol : symbol? (c :: rest) with
    | some t' =>
      rw [hsymbol] at h
      obtain rfl := Option.some.inj (Except.ok.inj h)
      exact symbol?_eq_some hsymbol
    | none =>
      rw [hsymbol] at h
      simp only at h
      split at h
      · exact absurd h (by simp)
      split at h
      · split at h
        · exact absurd h (by simp)
        · next t' ht' =>
          obtain rfl := Option.some.inj (Except.ok.inj h)
          obtain ⟨written, htext⟩ := Text.rest_suffix_of_afterQuote? ht'
          exact ⟨c :: written, by simp [← htext], trivial⟩
      split at h
      · obtain ⟨t', ht', ht⟩ := map_eq_ok_iff.mp h
        obtain rfl := Option.some.inj ht
        exact bracketed_eq_ok ht'
      split at h
      · exact number?_eq_ok h
      split at h
      · exact name?_eq_some (Except.ok.inj h)
      · exact absurd (Except.ok.inj h) (by simp)

/-! ### The first character -/

theorem read_bracket (position : Nat) (rest : List Char) :
    read position ('[' :: rest) = (bracketed position ('[' :: rest)).map some := rfl

theorem symbol?_eq_none {c : Char} {rest : List Char} (hc : c ∉ symbolChars) :
    symbol? (c :: rest) = none := by
  refine Option.eq_none_iff_forall_ne_some.mpr fun t ht => ?_
  obtain ⟨written, htext, hwritten⟩ := symbol?_eq_some ht
  -- a symbol is written with characters of symbols, and with one at least
  cases written with
  | nil =>
    have hlength := congrArg List.length htext
    exact absurd t.shorter (by simp at hlength ⊢; omega)
  | cons d written =>
    obtain ⟨rfl, -⟩ := List.cons.inj htext
    exact hc (hwritten c List.mem_cons_self)

/-- The characters that a lexeme starts with, names aside. -/
def marks : List Char := symbolChars ++ "$\"'[.0123456789".toList

theorem mem_marks_of_isDigit {c : Char} (h : c.isDigit = true) : c ∈ marks := by
  exact Text.ascii_forall (P := fun c => c.isDigit = true → c ∈ marks) (Text.forall_mem_of_all rfl)
    (Text.toNat_lt_of_isDigit h) h

/-- What starts with no symbol, mark or quote starts with a number, with a name or with no lexeme. -/
theorem read_of_not_mem {c : Char} {rest : List Char} (hsymbol : c ∉ symbolChars)
    (hmark : c ∉ ['$', '"', '\'', '[']) :
    read position (c :: rest) =
      if startsNumber (c :: rest) then number? position (c :: rest)
      else if startsName c then .ok (name? (c :: rest)) else .ok none := by
  have hne : ∀ d ∈ symbolChars, c ≠ d := by
    rintro d hd rfl
    exact hsymbol hd
  simp only [List.mem_cons, List.not_mem_nil, or_false, not_or] at hmark
  obtain ⟨hvar, hdouble, hsingle, hbracket⟩ := hmark
  rw [read.eq_3 _ _ _ hvar, symbol?_eq_none hsymbol]
  simp [hne '&' (by decide), hne '|' (by decide), hdouble, hsingle, hbracket]

/-- What starts with no mark starts with a name or with no lexeme. -/
theorem read_of_not_mem_marks {c : Char} {rest : List Char} (hc : c ∉ marks) :
    read position (c :: rest) = if startsName c then .ok (name? (c :: rest)) else .ok none := by
  have hmarks : ∀ d ∈ ['$', '"', '\'', '['], d ∈ marks := Text.forall_mem_of_all (by decide)
  -- a number starts with a digit or a point, and both are marks
  have hpoint : c ≠ '.' := by
    rintro rfl
    exact hc (by decide)
  have hnumber : ¬startsNumber (c :: rest) = true := by
    rw [startsNumber.eq_2 _ _ fun _ _ h _ => hpoint h]
    exact fun hdigit => hc (mem_marks_of_isDigit hdigit)
  rw [read_of_not_mem (fun hmem => hc (List.mem_append_left _ hmem)) fun hmem => hc (hmarks c hmem),
    if_neg hnumber]

/-- Beyond ASCII, only letters start a lexeme. -/
theorem read_eq_none {c : Char} {rest : List Char} (hascii : 128 ≤ c.toNat)
    (hletter : Text.isAlphabetic c = false) : read position (c :: rest) = .ok none := by
  have hmarks : ∀ d ∈ marks, d.toNat < 128 := Text.forall_mem_of_all (by decide)
  have hc : c ∉ marks := fun hmem => Nat.not_lt.mpr hascii (hmarks c hmem)
  have hunderscore : c ≠ '_' := by
    rintro rfl
    exact absurd hascii (by decide)
  rw [read_of_not_mem_marks hc, startsName, hletter, beq_eq_false_iff_ne.mpr hunderscore]
  rfl

end Lexeme

namespace Lexemes

/-- The lexemes of a text, without the proof that there are fewer of them in the rest. -/
theorem ofCharsFrom_eq (position : Nat) (text : List Char) :
    ofCharsFrom position text =
      let start := position + Text.byteLength (text.takeWhile Text.isBlank)
      match text.dropWhile Text.isBlank with
      | [] => ⟨[], .finished start⟩
      | c :: rest =>
        match Lexeme.read start (c :: rest) with
        | .error fault => ⟨[], .faulty fault⟩
        | .ok none => ⟨[], .faulty (.malformed (.unexpectedChar c start))⟩
        | .ok (some t) =>
          let others := ofCharsFrom (start + Text.byteLength t.consumed) t.rest
          ⟨⟨t.value, start⟩ :: others.items, others.ending⟩ := by
  rw [ofCharsFrom]
  split
  · next h => rw [h]
  · next h =>
    rewrite [h]
    rfl

theorem ofCharsFrom_nil (position : Nat) : ofCharsFrom position [] = ⟨[], .finished position⟩ := by
  rw [ofCharsFrom_eq]
  rfl

/-- White space is passed over. -/
theorem ofCharsFrom_blank {position : Nat} {c : Char} {rest : List Char} (hc : Text.isBlank c = true) :
    ofCharsFrom position (c :: rest) = ofCharsFrom (position + c.utf8Size) rest := by
  rw [ofCharsFrom_eq, ofCharsFrom_eq, List.dropWhile_cons_of_pos hc, List.takeWhile_cons_of_pos hc,
    Text.byteLength_cons, ← Nat.add_assoc]

/-- A text that does not start with white space starts with a lexeme, if it is made of lexemes. -/
theorem ofCharsFrom_cons {position : Nat} {c : Char} {rest : List Char}
    (hc : Text.isBlank c = false) :
    ofCharsFrom position (c :: rest) =
      match Lexeme.read position (c :: rest) with
      | .error fault => ⟨[], .faulty fault⟩
      | .ok none => ⟨[], .faulty (.malformed (.unexpectedChar c position))⟩
      | .ok (some t) =>
        let others := ofCharsFrom (position + Text.byteLength t.consumed) t.rest
        ⟨⟨t.value, position⟩ :: others.items, others.ending⟩ := by
  have hc' : ¬Text.isBlank c = true := by simp [hc]
  rw [ofCharsFrom_eq, List.dropWhile_cons_of_neg hc', List.takeWhile_cons_of_neg hc']
  rfl

end Lexemes

end Formulary
