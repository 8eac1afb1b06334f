import Formulary.Proofs.Document.Grammar
import Formulary.Proofs.Lexeme.Brackets
import Formulary.Proofs.Screen.Parentheses
import Formulary.Proofs.Text.Classes

/-!
# Documents within expression text

Two scanners go through a JSON array that stands in the text of an expression, and neither is a reader of
JSON. The one that looks for the closing bracket knows brackets, strings and backslashes, which is enough for it
to find that of the array (`IsWritten.isEnclosed`). What follows the array is read as it stands there
(`brackets?_exact`). The one that checks parentheses knows nothing of backslashes, and a quote behind one ends a
string for it. It goes through an array all the same if no string holds a quote (`IsWritten.balances`).
-/

namespace Formulary

/-! ### Characters without meaning to the scanners -/

namespace Document

/-- The characters that either scanner looks for. -/
def delimiters : List Char := ['"', '\'', '(', ')', '[', ']', '\x7b', '\x7d']

/-- A text that neither scanner takes notice of. -/
def IsInert (text : List Char) : Prop := ∀ c ∈ text, c ∉ delimiters

variable {text more : List Char}

theorem isInert_nil : IsInert [] := by simp [IsInert]

theorem IsInert.cons {c : Char} (hc : c ∉ delimiters) (h : IsInert text) : IsInert (c :: text) :=
  List.forall_mem_cons.mpr ⟨hc, h⟩

theorem IsInert.append (h : IsInert text) (h' : IsInert more) : IsInert (text ++ more) :=
  List.forall_mem_append.mpr ⟨h, h'⟩

theorem isInert_of_mem_words (h : text ∈ words) : IsInert text := by
  rcases mem_words_iff.mp h with rfl | rfl | rfl <;> exact Text.forall_mem_of_all (by decide)

theorem IsGap.isInert (h : IsGap text) : IsInert text := h.forall_mem (by decide)

theorem IsDigits.isInert (h : IsDigits text) : IsInert text := by
  have hdelimiters : ∀ d ∈ delimiters, d.isDigit = false := Text.forall_mem_of_all (by decide)
  intro c hc hmem
  exact absurd (h.2 c hc) (by simp [hdelimiters c hmem])

theorem IsPlaces.isInert (h : IsPlaces text) : IsInert text := by
  cases h with
  | absent => exact isInert_nil
  | present hdigits => exact hdigits.isInert.cons (by decide)

theorem isInert_of_mem_signs {sign : List Char} (h : sign ∈ [[], ['+'], ['-']]) : IsInert sign := by
  simp only [List.mem_cons, List.not_mem_nil, or_false] at h
  rcases h with rfl | rfl | rfl
  · exact isInert_nil
  · exact isInert_nil.cons (by decide)
  · exact isInert_nil.cons (by decide)

theorem IsExponent.isInert (h : IsExponent text) : IsInert text := by
  cases h with
  | absent => exact isInert_nil
  | present hmark hsign hdigits =>
    refine .cons ?_ ((isInert_of_mem_signs hsign).append hdigits.isInert)
    rcases hmark with rfl | rfl <;> decide

theorem IsNumber.isInert (h : IsNumber text) : IsInert text := by
  obtain @⟨sign, whole, places, exponent, hsign, hwhole, hplaces, hexponent⟩ := h
  have hsigns : sign ∈ [[], ['+'], ['-']] := by
    simp only [List.mem_cons, List.not_mem_nil, or_false] at hsign ⊢
    exact hsign.imp_right Or.inr
  exact .append (isInert_of_mem_signs hsigns)
    (hwhole.1.isInert.append (hplaces.isInert.append hexponent.isInert))

end Document

/-! ### The closing bracket -/

namespace Document

open Lexeme (IsNested IsInside IsEnclosed)

variable {letters text : List Char}

theorem IsInert.isNested (h : IsInert text) : IsNested text := by
  have hsub : ∀ d ∈ Lexeme.bracketMarks, d ∈ delimiters := Text.forall_mem_of_all (by decide)
  exact .of_forall fun c hc hmem => h c hc (hsub c hmem)

/-- A hexadecimal digit is no character that is none. -/
theorem ne_of_hexDigit? {c d : Char} (hc : (hexDigit? c).isSome) (hd : (hexDigit? d).isSome = false) :
    c ≠ d := by
  rintro rfl
  simp [hd] at hc

theorem IsBody.isInside {body : List Char} (h : IsBody letters body) : IsInside body := by
  induction h with
  | nil => exact .nil
  | plain _ hquote hbackslash _ ih => exact .plain hquote hbackslash ih
  | letter _ _ ih => exact .escaped _ ih
  | code hdigits _ ih =>
    -- a code begins like a letter, and its digits are plain characters
    have hplain {x : Char} {rest : List Char} (hx : (hexDigit? x).isSome) (h : IsInside rest) :
        IsInside (x :: rest) :=
      .plain (ne_of_hexDigit? hx (by decide)) (ne_of_hexDigit? hx (by decide)) h
    simp only [List.forall_mem_cons] at hdigits
    obtain ⟨ha, hb, hc, hd, -⟩ := hdigits
    exact .escaped 'u' (hplain ha (hplain hb (hplain hc (hplain hd ih))))

variable {part : Part}

/-- **In every part of a document brackets are nested**, those in strings left out. -/
theorem IsWritten.isNested (h : IsWritten letters part text) : IsNested text := by
  induction h with
  | word h => exact (isInert_of_mem_words h).isNested
  | number h => exact h.isInert.isNested
  | string hbody => exact .string hbody.isInside .nil
  | emptyArray hgap => exact .brackets (Or.inl rfl) hgap.isInert.isNested (Or.inl rfl) .nil
  | array _ ih => exact .brackets (Or.inl rfl) ih (Or.inl rfl) .nil
  | emptyObject hgap => exact .brackets (Or.inr rfl) hgap.isInert.isNested (Or.inr rfl) .nil
  | object _ ih => exact .brackets (Or.inr rfl) ih (Or.inr rfl) .nil
  | member hbody hbefore hafter _ ih =>
    have hvalue := IsNested.plain (by decide : ':' ∉ Lexeme.bracketMarks) (hafter.isInert.isNested.append ih)
    exact .string hbody.isInside (hbefore.isInert.isNested.append hvalue)
  | last hbefore _ hafter ih =>
    exact hbefore.isInert.isNested.append (ih.append hafter.isInert.isNested)
  | more hbefore _ hafter _ ih ihmore =>
    have hothers := IsNested.plain (by decide : ',' ∉ Lexeme.bracketMarks) ihmore
    exact hbefore.isInert.isNested.append (ih.append (hafter.isInert.isNested.append hothers))

/-- What an array has between its brackets. -/
theorem IsWritten.exists_of_array {inner : List Char}
    (h : IsWritten letters (.one .value) ('[' :: inner)) :
    ∃ content, inner = content ++ [']'] ∧ (IsGap content ∨ IsWritten letters (.several .value) content) := by
  -- only an array begins with this bracket
  generalize htext : '[' :: inner = text at h
  cases h with
  | word h => exact absurd (by decide) (isInert_of_mem_words h '[' (htext ▸ List.mem_cons_self))
  | number h => exact absurd (by decide) (h.isInert '[' (htext ▸ List.mem_cons_self))
  | emptyArray hgap =>
    obtain ⟨-, rfl⟩ := List.cons.inj htext
    exact ⟨_, rfl, Or.inl hgap⟩
  | array h =>
    obtain ⟨-, rfl⟩ := List.cons.inj htext
    exact ⟨_, rfl, Or.inr h⟩
  | _ => exact absurd (List.cons.inj htext).1 (by decide)

/-- **An array goes to the bracket that closes it.** -/
theorem IsWritten.isEnclosed {inner : List Char} (h : IsWritten letters (.one .value) ('[' :: inner)) :
    IsEnclosed ('[' :: inner) := by
  obtain ⟨content, rfl, hcontent⟩ := h.exists_of_array
  have hnested : IsNested content := hcontent.elim (·.isInert.isNested) (·.isNested)
  exact ⟨'[', content, ']', Or.inl rfl, hnested, Or.inl rfl, rfl⟩

/-! ### The search for it -/

open Lexeme (brackets? behindBrackets? search IsClosing) in
/-- **The search for the end of a list is exact.**

* From an array on it goes to the end of the array, whatever follows, so that the array is what is read as an option
  list and the text goes on behind it.
* If the text starts with no enclosed list the list is reported as unterminated, and only then.
* It closes no bracket that has not been opened: wherever it comes upon a closing bracket outside of strings, it has
  at least one open. -/
theorem brackets?_exact (position : Nat) (text : List Char) :
    (∀ inner rest, text = inner ++ rest → IsWritten escapes (.one .value) ('[' :: inner) →
      (∃ t, brackets? .plain 0 ('[' :: text) = some t ∧ t.consumed = '[' :: inner ∧ t.rest = rest) ∧
      Lexemes.ofCharsFrom position ('[' :: text) =
        match Lexeme.optionList position ('[' :: inner) with
        | .error fault => ⟨[], .faulty fault⟩
        | .ok v =>
          let others := Lexemes.ofCharsFrom (position + Text.byteLength ('[' :: inner)) rest
          ⟨⟨.literal v, position⟩ :: others.items, others.ending⟩) ∧
    (Lexeme.read position ('[' :: text) = .error (.malformed (.unterminatedList position)) ↔
      ¬∃ front rest, '[' :: text = front ++ rest ∧ IsEnclosed front) ∧
    (∀ front c rest state nesting, '[' :: text = front ++ c :: rest →
      search front = some (state, nesting) →
        behindBrackets? .plain 0 ('[' :: text) = behindBrackets? state nesting (c :: rest) ∧
          (state = .plain → IsClosing c → 0 < nesting)) := by
  refine ⟨?_, ?_, ?_⟩
  · rintro inner rest rfl harray
    exact ⟨harray.isEnclosed.exists_brackets? rest,
      Lexeme.ofCharsFrom_of_isEnclosed harray.isEnclosed rest position⟩
  · rw [Lexeme.read_eq_unterminatedList_iff, Lexeme.brackets?_eq_none_iff (Or.inl rfl)]
  · intro front c rest state nesting htext hsearch
    refine ⟨by rw [htext, Lexeme.behindBrackets?_of_searchFrom hsearch], fun _ hc => ?_⟩
    cases front with
    | nil =>
      -- the text starts with a bracket that opens
      obtain ⟨rfl, -⟩ := List.cons.inj htext
      exact absurd hc (by simp [IsClosing])
    | cons d front =>
      obtain ⟨rfl, -⟩ := List.cons.inj htext
      exact Lexeme.nesting_pos_of_search (Or.inl rfl) hsearch

/-- An object in an array, with a brace and a quoted bracket in its strings: what goes on behind it is closed by a
bracket of its own. -/
theorem brackets?_exact_quoted :
    IsWritten escapes (.one .value) "[\x7b\"\x7d\":\"\\\"[\"\x7d]".toList ∧
      (∃ t, Lexeme.brackets? .plain 0 "[\x7b\"\x7d\":\"\\\"[\"\x7d], 2]".toList = some t ∧
        t.consumed = "[\x7b\"\x7d\":\"\\\"[\"\x7d]".toList ∧ t.rest = ", 2]".toList) ∧
      Lexeme.search "[\x7b\"\x7d\":\"\\\"[\"".toList = some (.plain, 2) ∧ 0 < 2 := by
  have hname : IsBody escapes "\x7d".toList := isBody_of_forall (Text.forall_mem_of_all (by decide))
  have hbody : IsBody escapes "\\\"[".toList :=
    .letter (by decide) (isBody_of_forall (Text.forall_mem_of_all (by decide)))
  have hmember : IsWritten escapes (.one .member) _ := .member hname isGap_nil isGap_nil (.string hbody)
  have harray : IsWritten escapes (.one .value) ('[' :: "\x7b\"\x7d\":\"\\\"[\"\x7d]".toList) :=
    .array (.last isGap_nil (.object (.last isGap_nil hmember isGap_nil)) isGap_nil)
  have hsearch : Lexeme.search "[\x7b\"\x7d\":\"\\\"[\"".toList = some (.plain, 2) := by decide
  obtain ⟨hends, -, hopen⟩ := brackets?_exact 0 "\x7b\"\x7d\":\"\\\"[\"\x7d], 2]".toList
  obtain ⟨hscanned, -⟩ := hends _ ", 2]".toList rfl harray
  obtain ⟨-, hpos⟩ := hopen _ '\x7d' "], 2]".toList _ _ rfl hsearch
  exact ⟨harray, hscanned, hsearch, hpos rfl (Or.inr rfl)⟩

/-! ### Quotes -/

theorem IsBody.ne_quote {body : List Char} (h : IsBody letters body) (hquote : '"' ∉ letters) :
    ∀ c ∈ body, c ≠ '"' := by
  induction h with
  | nil => simp
  | plain _ hc _ _ ih => exact List.forall_mem_cons.mpr ⟨hc, ih⟩
  | letter hc _ ih =>
    exact List.forall_mem_cons.mpr ⟨by decide, List.forall_mem_cons.mpr ⟨fun heq => hquote (heq ▸ hc), ih⟩⟩
  | code hdigits _ ih =>
    -- the digits of a code are no quotes either
    have hdigit {x : Char} (hx : (hexDigit? x).isSome) : x ≠ '"' := ne_of_hexDigit? hx (by decide)
    simp only [List.forall_mem_cons] at hdigits ⊢
    exact ⟨by decide, by decide, hdigit hdigits.1, hdigit hdigits.2.1, hdigit hdigits.2.2.1,
      hdigit hdigits.2.2.2.1, ih⟩

open Screen (Balances)

theorem balances_of_isInert (h : IsInert text) (rest : List Char) : Balances text rest := by
  refine Screen.balances_of_forall (fun c hc hmem => h c hc ?_) rest
  have hsub : ∀ d ∈ Screen.delimiters, d ∈ delimiters := Text.forall_mem_of_all (by decide)
  exact hsub c hmem

/-- A string without quotes in it ends at its quote, if no other quote follows. -/
theorem IsBody.balances {body rest : List Char} (h : IsBody letters body) (hquote : '"' ∉ letters)
    (hrest : rest.head? ≠ some '"') : Balances ('"' :: (body ++ ['"'])) rest := by
  have hbalances := Screen.balances_quote (Or.inl rfl) body hrest
  rwa [Text.quote, Text.doubled_eq_self (h.ne_quote hquote)] at hbalances

/-- No quote stands behind white space where none stands behind what follows it. -/
theorem IsGap.head?_append_ne {gap rest : List Char} (hgap : IsGap gap) (hrest : rest.head? ≠ some '"') :
    (gap ++ rest).head? ≠ some '"' := by
  cases gap with
  | nil => exact hrest
  | cons c gap =>
    rintro ⟨⟩
    exact hgap.isInert '"' List.mem_cons_self (by decide)

theorem balances_brackets {c d : Char} {rest : List Char} (hc : c ∉ Screen.delimiters)
    (hd : d ∉ Screen.delimiters) (h : Balances text (d :: rest)) : Balances (c :: (text ++ [d])) rest := by
  have hopen : Balances [c] (text ++ [d] ++ rest) := Screen.balances_of_forall (by simpa using hc) _
  have hclose : Balances [d] rest := Screen.balances_of_forall (by simpa using hd) _
  exact hopen.append (h.append hclose)

/-- **The check of parentheses goes through every part of a document** in whose strings no quote stands. -/
theorem IsWritten.balances (h : IsWritten letters part text) (hquote : '"' ∉ letters) {rest : List Char}
    (hrest : rest.head? ≠ some '"') : Balances text rest := by
  -- what follows a part is different for each, but never starts with a quote
  induction h generalizing rest with
  | word h => exact balances_of_isInert (isInert_of_mem_words h) rest
  | number h => exact balances_of_isInert h.isInert rest
  | string hbody => exact hbody.balances hquote hrest
  | emptyArray hgap => exact balances_brackets (by decide) (by decide) (balances_of_isInert hgap.isInert _)
  | array _ ih => exact balances_brackets (by decide) (by decide) (ih (by simp))
  | emptyObject hgap => exact balances_brackets (by decide) (by decide) (balances_of_isInert hgap.isInert _)
  | object _ ih => exact balances_brackets (by decide) (by decide) (ih (by simp))
  | @member body before after text hbody hbefore hafter _ ih =>
    have hcolon : IsInert (before ++ ':' :: after) := hbefore.isInert.append (hafter.isInert.cons (by decide))
    have hbehind : (before ++ ':' :: (after ++ (text ++ rest))).head? ≠ some '"' :=
      hbefore.head?_append_ne (by simp)
    have hall := (hbody.balances hquote (by simpa using hbehind)).append
      ((balances_of_isInert hcolon _).append (ih hrest))
    simpa using hall
  | last hbefore _ hafter ih =>
    exact (balances_of_isInert hbefore.isInert _).append
      ((ih (hafter.head?_append_ne hrest)).append (balances_of_isInert hafter.isInert rest))
  | @more _ _ text after others hbefore _ hafter _ ih ihmore =>
    have hbehind : (after ++ ',' :: (others ++ rest)).head? ≠ some '"' := hafter.head?_append_ne (by simp)
    -- the comma belongs to what separates the two, in which nothing counts
    have hcomma : IsInert (after ++ [',']) := hafter.isInert.append (isInert_nil.cons (by decide))
    have hall := (balances_of_isInert hbefore.isInert _).append
      ((ih (by simpa using hbehind)).append ((balances_of_isInert hcomma _).append (ihmore hrest)))
    simpa using hall

/-- A whole array in whose strings no quote stands passes the check. -/
theorem IsArrayText.checkParentheses (h : IsArrayText letters text) (hquote : '"' ∉ letters) :
    Screen.checkParentheses text = .ok () := by
  obtain @⟨before, inner, after, hbefore, harray, hafter⟩ := h
  have hnone : (after ++ []).head? ≠ some '"' := hafter.head?_append_ne (by simp)
  have hall := (balances_of_isInert hbefore.isInert _).append
    ((harray.balances hquote hnone).append (balances_of_isInert hafter.isInert []))
  exact hall.check

end Document

end Formulary
