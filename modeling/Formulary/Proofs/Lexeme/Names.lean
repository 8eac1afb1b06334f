import Mathlib.Data.List.Chain
import Formulary.Proofs.Lexeme.Reading
import Formulary.Proofs.Screen.Forbidden

/-!
# Where names stand in a text

The names among the lexemes of a text stand in that text (`Standing`), if the text is made of lexemes only
and of two that follow each other at least one is a symbol (`Separated`). Without the latter a number may
run into a name, as in `2file`, and then the name is a part of a longer word.

The proof goes along the lexemes. What comes before a name is white space, a symbol, or a character of a
word only if a symbol comes next. What comes behind a name does not go on with it, and what goes on with a
word but not with a name starts no lexeme.
-/

namespace Formulary

open Screen (Standing endsInWord startsInWord)

namespace Lexeme

/-- Whether a lexeme is a symbol. -/
def isSymbol : Lexeme → Bool
  | symbol _ => true
  | _ => false

/-- Of each two lexemes that follow each other, one is a symbol. -/
def Separated (ts : List Lexeme) : Prop :=
  ts.IsChain fun a b => a.isSymbol = true ∨ b.isSymbol = true

/-- A lexeme with a name. -/
def Names (s : String) : Lexeme → Prop
  | name s' => s' = s
  | var s' => s' = s
  | _ => False

/-- A character that goes on with a word and not with a name is no letter, and is beyond ASCII. -/
theorem of_isWordChar_of_not_isNameChar {c : Char} (hword : Text.isWordChar c = true)
    (hname : isNameChar c = false) : 128 ≤ c.toNat ∧ Text.isAlphabetic c = false := by
  simp only [isNameChar, Text.isAlphanumeric, Bool.or_eq_false_iff] at hname
  obtain ⟨⟨⟨halphabetic, hnumeric⟩, hunderscore⟩, -⟩ := hname
  refine ⟨Nat.not_lt.mp fun hascii => ?_, halphabetic⟩
  rw [Text.isAlphabetic, if_pos hascii] at halphabetic
  rw [Text.isNumeric, if_pos hascii] at hnumeric
  rw [Text.isWordChar, if_pos hascii, Char.isAlphanum, halphabetic, hnumeric, hunderscore] at hword
  exact absurd hword (by decide)

end Lexeme

namespace Lexemes

open Lexeme

/-- A text that goes on with a word and not with a name holds something that is no lexeme. -/
theorem exists_faulty_of_startsInWord {text : List Char} (position : Nat)
    (hname : ∀ c ∈ text.head?, isNameChar c = false) (hword : startsInWord text = true) :
    ∃ fault, ofCharsFrom position text = ⟨[], .faulty fault⟩ := by
  cases text with
  | nil => exact absurd hword (by simp)
  | cons c rest =>
    obtain ⟨hascii, hletter⟩ := of_isWordChar_of_not_isNameChar hword (hname c rfl)
    -- no white space is part of a word
    have hblank : Text.isBlank c = false := by
      rw [Bool.eq_false_iff]
      intro hblank
      rw [startsInWord, Text.isWordChar_of_isBlank hblank] at hword
      exact absurd hword (by decide)
    rw [ofCharsFrom_cons hblank, read_eq_none hascii hletter]
    exact ⟨_, rfl⟩

/-- The names among the lexemes of a text stand in it. -/
theorem standing_of_mem {position last : Nat} {text : List Char} {inWord : Bool}
    (hfinished : (ofCharsFrom position text).ending = .finished last)
    (hseparated : Separated ((ofCharsFrom position text).items.map Located.lexeme))
    (hfirst : inWord = true →
      ∀ t ∈ ((ofCharsFrom position text).items.map Located.lexeme).head?, t.isSymbol = true)
    {t : Lexeme} {s : String} (ht : t ∈ (ofCharsFrom position text).items.map Located.lexeme)
    (hs : t.Names s) : Standing inWord s.toList text ∧ ∀ c ∈ s.toList, isNameChar c = true := by
  fun_induction ofCharsFrom position text generalizing inWord with
  | case1 => exact absurd ht (by simp)
  | case2 => exact absurd ht (by simp)
  | case3 => exact absurd ht (by simp)
  | case4 position text start c rest hrest u hread others =>
    rename_i ih
    obtain ⟨written, hwritten, hvalue⟩ := read_eq_ok hread
    -- the text is white space, which is in no word, then what the lexeme is written with, then the rest
    obtain ⟨blanks, hblanks, rfl⟩ : ∃ blanks : List Char,
        (∀ c ∈ blanks, Text.isWordChar c = false) ∧ text = blanks ++ (written ++ u.rest) := by
      refine ⟨text.takeWhile Text.isBlank, fun c hc => ?_, ?_⟩
      · exact Text.isWordChar_of_isBlank (List.mem_takeWhile_imp hc)
      · rw [← hwritten, ← hrest, List.takeWhile_append_dropWhile]
    rw [List.map_cons, Separated, List.isChain_cons] at hseparated
    obtain ⟨hnext, hothers⟩ := hseparated
    rcases List.mem_cons.mp ht with rfl | ht
    · -- a name goes as far as its word does
      have hends (h : ∀ c ∈ u.rest.head?, isNameChar c = false) : startsInWord u.rest = false := by
        rw [Bool.eq_false_iff]
        intro hword
        obtain ⟨fault, hfaulty⟩ := exists_faulty_of_startsInWord
          (start + Text.byteLength u.consumed) h hword
        change (ofCharsFrom (start + Text.byteLength u.consumed) u.rest).ending = _ at hfinished
        exact absurd hfinished (by simp [hfaulty])
      change (u.value).Names s at hs
      cases hu : u.value with
      | literal v => exact absurd hs (by simp [hu, Names])
      | symbol s' => exact absurd hs (by simp [hu, Names])
      -- a name does not stand behind a word: white space is between them, or the lexeme before it is a symbol
      | name s' =>
        rw [hu] at hs hvalue
        obtain rfl := hs
        obtain ⟨rfl, hchars, hrest⟩ := hvalue
        refine ⟨⟨blanks, u.rest, by rw [List.append_assoc], ?_, hends hrest⟩, hchars⟩
        cases inWord with
        | true => exact absurd (hfirst rfl _ rfl) (by simp [hu, isSymbol])
        | false => exact Screen.endsInWord_eq_false hblanks
      -- a variable has its mark before it, which is in no word
      | var s' =>
        rw [hu] at hs hvalue
        obtain rfl := hs
        obtain ⟨rfl, hchars, hrest⟩ := hvalue
        refine ⟨⟨blanks ++ ['$'], u.rest, by simp, ?_, hends hrest⟩, hchars⟩
        rw [Screen.endsInWord_append]
        exact (by decide : Text.isWordChar '$' = false)
    · -- the name is in the rest: behind a lexeme that may end in a word, a symbol has to come first
      have hne : written ≠ [] := by
        rintro rfl
        exact absurd u.shorter (by simp [hwritten])
      have hbehind : endsInWord false written = true →
          ∀ t ∈ (others.items.map Located.lexeme).head?, t.isSymbol = true := by
        intro hword t ht
        refine (hnext t ht).resolve_left fun hsymbol => ?_
        change u.value.isSymbol = true at hsymbol
        cases hu : u.value with
        | symbol s' =>
          rw [hu] at hvalue
          have hsymbols : ∀ c ∈ symbolChars, Text.isWordChar c = false :=
            Text.forall_mem_of_all (by decide)
          rw [Screen.endsInWord_eq_false fun c hc => hsymbols c (hvalue c hc)] at hword
          exact absurd hword (by decide)
        | _ => exact absurd hsymbol (by simp [hu, isSymbol])
      obtain ⟨hstanding, hchars⟩ := ih hfinished hothers hbehind ht
      refine ⟨?_, hchars⟩
      rw [← List.append_assoc]
      refine hstanding.prepend _ ?_
      rw [Screen.endsInWord_append]
      exact Screen.endsInWord_of_ne_nil hne _ _

end Lexemes

end Formulary
