import Mathlib.Data.List.Basic
import Formulary.Lexeme.Reader
import Formulary.Proofs.Screen.Forbidden

/-!
# Screening names in upper case

A safe name need not be safe in upper case. The screen compares characters one by one, and full upper
case makes several ASCII letters of some characters, and one of the dotless `ı`, that the screen takes
for no letter. These are the nine `disguises`.

Upper case leaves the words of a text in their places (`endsInWord_upper`, `startsInWord_upper`), and
whatever stands in the upper case of a text is the upper case of something that stands in the text
(`exists_of_standing_upper`). So a safe name is unsafe in upper case exactly if it is `Disguised`: a word
with a disguise in it stands there, and is a forbidden word in upper case (`isSafe_upper_iff`).
-/

namespace Formulary.Screen

open Text (isWordChar upper upperChar upperChar_cases)

/-! ### Upper case and the places of words -/

theorem endsInWord_eq_true {text : List Char} (hne : text ≠ [])
    (h : ∀ c ∈ text, isWordChar c = true) (inWord : Bool) : endsInWord inWord text = true := by
  have hword : endsInWord true text = true := by
    clear hne
    induction text with
    | nil => rfl
    | cons c rest ih =>
      obtain ⟨hc, hrest⟩ := List.forall_mem_cons.mp h
      rw [endsInWord_cons, hc]
      exact ih hrest
  rw [endsInWord_of_ne_nil hne inWord true, hword]

theorem endsInWord_upperChar (inWord : Bool) (c : Char) :
    endsInWord inWord (upperChar c) = isWordChar c := by
  rcases upperChar_cases c with h | ⟨hc, hne, hwords⟩
  · rw [h]
    rfl
  · rw [endsInWord_eq_true hne hwords, hc]

theorem startsInWord_upperChar_append (c : Char) (rest : List Char) :
    startsInWord (upperChar c ++ rest) = isWordChar c := by
  rcases upperChar_cases c with h | ⟨hc, hne, hwords⟩
  · rw [h]
    rfl
  · obtain ⟨x, xs, hx⟩ := List.exists_cons_of_ne_nil hne
    rw [hx, hc]
    exact hwords x (by simp [hx])

theorem endsInWord_upper (inWord : Bool) (text : List Char) :
    endsInWord inWord (upper text) = endsInWord inWord text := by
  induction text generalizing inWord with
  | nil => rfl
  | cons c rest ih =>
    rw [upper, List.flatMap_cons, endsInWord_append, endsInWord_upperChar]
    exact ih _

theorem startsInWord_upper (text : List Char) : startsInWord (upper text) = startsInWord text := by
  cases text with
  | nil => rfl
  | cons c rest => exact startsInWord_upperChar_append c _

@[simp] theorem upper_append (text more : List Char) :
    upper (text ++ more) = upper text ++ upper more :=
  List.flatMap_append

/-- What stands in a text stands there in upper case too. -/
theorem Standing.upper {inWord : Bool} {part text : List Char} (h : Standing inWord part text) :
    Standing inWord (upper part) (upper text) := by
  obtain ⟨before, after, rfl, hbefore, hafter⟩ := h
  refine ⟨Text.upper before, Text.upper after, by simp only [upper_append], ?_, ?_⟩
  · rw [endsInWord_upper, hbefore]
  · rw [startsInWord_upper, hafter]

/-- Where the upper case of a text can be cut but not within a word, the text itself can be cut. -/
theorem exists_of_upper_eq_append (inWord : Bool) {text front back : List Char}
    (h : upper text = front ++ back)
    (hcut : endsInWord inWord front = false ∨ startsInWord back = false) :
    ∃ a b, text = a ++ b ∧ upper a = front ∧ upper b = back := by
  induction text generalizing inWord front with
  | nil =>
    obtain ⟨rfl, rfl⟩ := List.append_eq_nil_iff.mp h.symm
    exact ⟨[], [], rfl, rfl, rfl⟩
  | cons c rest ih =>
    have hc : upperChar c ++ upper rest = front ++ back := h
    rcases List.append_eq_append_iff.mp hc with ⟨more, rfl, hrest⟩ | ⟨left, hchar, rfl⟩
    · -- the cut is behind the upper case of this character
      rw [endsInWord_append] at hcut
      obtain ⟨a, b, rfl, rfl, rfl⟩ := ih _ hrest hcut
      exact ⟨c :: a, b, rfl, rfl, rfl⟩
    · -- the cut is within the upper case of one character, so at one of its ends
      by_cases hfront : front = []
      · subst hfront
        exact ⟨[], c :: rest, rfl, rfl, by simpa [← hchar] using h⟩
      by_cases hleft : left = []
      · subst hleft
        rw [List.append_nil] at hchar
        exact ⟨[c], rest, rfl, by simpa [Text.upper] using hchar, rfl⟩
      exfalso
      rcases upperChar_cases c with hself | ⟨-, -, hwords⟩
      · have hlength := congrArg List.length (hself.symm.trans hchar)
        rw [List.length_singleton, List.length_append] at hlength
        have := List.length_pos_iff.mpr hfront
        have := List.length_pos_iff.mpr hleft
        omega
      · rw [hchar, List.forall_mem_append] at hwords
        rcases hcut with hends | hstarts
        · simp [endsInWord_eq_true hfront hwords.1] at hends
        · obtain ⟨x, xs, rfl⟩ := List.exists_cons_of_ne_nil hleft
          rw [List.cons_append, startsInWord_cons, hwords.2 x List.mem_cons_self] at hstarts
          exact absurd hstarts (by decide)

/-- What stands in the upper case of a text stands in the text, in some case. -/
theorem exists_of_standing_upper {inWord : Bool} {part text : List Char}
    (h : Standing inWord part (upper text)) :
    ∃ word, Standing inWord word text ∧ upper word = part := by
  obtain ⟨before, after, htext, hbefore, hafter⟩ := h
  obtain ⟨front, c, rfl, hfront, rfl⟩ :=
    exists_of_upper_eq_append inWord htext (Or.inr hafter)
  obtain ⟨a, word, rfl, rfl, rfl⟩ := exists_of_upper_eq_append inWord hfront (Or.inl hbefore)
  rw [endsInWord_upper] at hbefore
  rw [startsInWord_upper] at hafter
  exact ⟨word, ⟨a, c, rfl, hbefore, hafter⟩, rfl⟩

/-! ### What upper case leaves alone -/

theorem isWordChar_or_mem_of_mem_upper {text : List Char} {x : Char} (h : x ∈ upper text) :
    isWordChar x = true ∨ x ∈ text := by
  obtain ⟨c, hc, hx⟩ := List.mem_flatMap.mp h
  rcases upperChar_cases c with hself | ⟨-, -, hwords⟩
  · rw [hself, List.mem_singleton] at hx
    exact Or.inr (hx ▸ hc)
  · exact Or.inl (hwords x hx)

/-- A text that has no character of a word in upper case is the same in upper case. -/
theorem upper_eq_self {text : List Char} (h : ∀ x ∈ upper text, isWordChar x = false) :
    upper text = text := by
  induction text with
  | nil => rfl
  | cons c rest ih =>
    have hsplit : upper (c :: rest) = upperChar c ++ upper rest := rfl
    rw [hsplit, List.forall_mem_append] at h
    rw [hsplit, ih h.2]
    rcases upperChar_cases c with hself | ⟨-, hne, hwords⟩
    · rw [hself]
      rfl
    · obtain ⟨x, xs, hx⟩ := List.exists_cons_of_ne_nil hne
      have hmem : x ∈ upperChar c := by simp [hx]
      exact absurd (hwords x hmem) (by simp [h.1 x hmem])

/-- A part of the upper case of a text that has no character of a word is a part of the text. -/
theorem infix_of_infix_upper {part text : List Char} (h : part <:+: upper text)
    (hpart : ∀ x ∈ part, isWordChar x = false) : part <:+: text := by
  by_cases hne : part = []
  · rw [hne]
    exact List.nil_infix
  obtain ⟨before, after, htext⟩ := h
  have hends : endsInWord false (before ++ part) = false := by
    rw [endsInWord_append, endsInWord_of_ne_nil hne _ false, endsInWord_eq_false hpart]
  have hstarts : startsInWord part = false := by
    obtain ⟨x, xs, rfl⟩ := List.exists_cons_of_ne_nil hne
    exact hpart x List.mem_cons_self
  -- no word goes on at either end of the part, so the text can be cut at both
  obtain ⟨front, c, rfl, hfront, -⟩ := exists_of_upper_eq_append false htext.symm (Or.inl hends)
  obtain ⟨a, b, rfl, -, rfl⟩ := exists_of_upper_eq_append false hfront (Or.inr hstarts)
  rw [upper_eq_self hpart]
  exact ⟨a, c, rfl⟩

/-! ### Disguises -/

/-- The characters that are ASCII letters in upper case but not for the screen. -/
def disguises : List Char :=
  ['ß', 'ı', '\ufb00', '\ufb01', '\ufb02', '\ufb03', '\ufb04', '\ufb05', '\ufb06']

/-- What the screen takes for a letter is one of ASCII, the long s or the Kelvin sign. -/
theorem toNat_of_isAlpha_fold {c : Char} (h : (fold c).isAlpha = true) :
    c.toNat < 128 ∨ c.toNat = 0x17F ∨ c.toNat = 0x212A := by
  unfold fold at h
  split at h
  · next hc => exact Or.inr (Or.inl (by rw [hc]; rfl))
  · split at h
    · next hc => exact Or.inr (Or.inr (by rw [hc]; rfl))
    · have halpha : c.isAlpha = true := by
        rcases toLower_cases c with hself | hletter
        · rwa [hself] at h
        · exact hletter.1
      exact Or.inl (Text.toNat_lt_of_isAlphanum (by rw [Char.isAlphanum, halpha, Bool.true_or]))

/-- Whether the screen takes nothing in an interval of code points for a letter. -/
def farFromLetters (first last : Nat) : Bool :=
  Nat.ble 128 first && (Nat.blt last 0x17F || Nat.blt 0x17F first) &&
    (Nat.blt last 0x212A || Nat.blt 0x212A first)

theorem isAlpha_fold_of_farFromLetters {first last n : Nat} (h : farFromLetters first last = true)
    (hfirst : first ≤ n) (hlast : n ≤ last) : (fold (Char.ofNat n)).isAlpha = false := by
  simp only [farFromLetters, Bool.and_eq_true, Bool.or_eq_true, Nat.ble_eq, Nat.blt_eq] at h
  by_cases hn : n.isValidChar
  · by_contra hletter
    have hcode := toNat_of_isAlpha_fold (by simpa using hletter)
    rw [Text.toNat_ofNat hn] at hcode
    omega
  · -- what is no code point becomes the null character
    rw [Char.ofNat, dif_neg hn]
    rfl

/-- Any other character whose upper case the screen takes for letters is one letter for the screen, the
same in upper case as written. -/
theorem map_fold_upperChar {c : Char} (h : ∀ x ∈ upperChar c, (fold x).isAlpha = true)
    (hc : c ∉ disguises) : (upperChar c).map fold = [fold c] := by
  suffices hcases : ((upperChar c).all fun x => (fold x).isAlpha) = true →
      (upperChar c).map fold = [fold c] ∨ c ∈ disguises from
    (hcases (List.all_eq_true.mpr h)).resolve_right hc
  -- of the runs only those of the dotless `ı` and of the long s have a letter in upper case
  have hruns : ∀ run ∈ Text.upperRuns,
      farFromLetters (run.1 + run.2.2.2 : Int).toNat (run.2.1 + run.2.2.2 : Int).toNat = true ∨
        run = (0x131, 0x131, 1, -232) ∨ run = (0x17F, 0x17F, 1, -300) := by
    decide +kernel
  refine Text.upperChar_sources (P := fun c cs => (cs.all fun x => (fold x).isAlpha) = true →
    cs.map fold = [fold c] ∨ c ∈ disguises) ?_ ?_ ?_ ?_ c
  · -- ASCII and the table of expansions are gone through one by one, the runs by their ends
    exact Text.forall_mem_of_all rfl
  · decide
  · intro run hrun n hn hstep hletter
    rw [List.mem_range'_1] at hn
    rcases hruns run hrun with hfar | rfl | rfl
    · have hnot := isAlpha_fold_of_farFromLetters hfar (n := (n + run.2.2.2 : Int).toNat)
        (by omega) (by omega)
      rw [List.all_cons, hnot, Bool.false_and] at hletter
      exact absurd hletter Bool.false_ne_true
    · obtain rfl : n = 0x131 := Nat.le_antisymm (Nat.le_of_lt_succ hn.2) hn.1
      exact Or.inr (by decide)
    · obtain rfl : n = 0x17F := Nat.le_antisymm (Nat.le_of_lt_succ hn.2) hn.1
      exact Or.inl rfl
  · exact fun c _ => Or.inl rfl

/-- A forbidden word stands in a name, in upper case and not without. -/
def Disguised (name : List Char) : Prop :=
  ∃ word, Standing false word name ∧ (∃ c ∈ word, c ∈ disguises) ∧
    (upper word).map fold ∈ forbiddenWords

/-- A word that is forbidden only in upper case has a disguise in it. -/
theorem exists_mem_disguises {word : List Char} (hword : word.map fold ∉ forbiddenWords)
    (hupper : (upper word).map fold ∈ forbiddenWords) : ∃ c ∈ word, c ∈ disguises := by
  refine Decidable.by_contra fun hnone => hword ?_
  have hsame : ∀ c ∈ word, (upperChar c).map fold = [fold c] := fun c hc => by
    refine map_fold_upperChar (fun x hx => ?_) fun hdisguise => hnone ⟨c, hc, hdisguise⟩
    exact isAlpha_of_mem_forbidden hupper
      (List.mem_map_of_mem (List.mem_flatMap.mpr ⟨c, hc, hx⟩))
  rwa [upper, List.map_flatMap, List.flatMap_congr hsame, ← List.map_eq_flatMap] at hupper

/-! ### Names -/

/-- No part of a name is forbidden in upper case unless it is forbidden as written. -/
theorem sequences_of_upper {name : List Char} (hname : ∀ c ∈ name, Lexeme.isNameChar c = true)
    (h : ∀ part, part <:+: name → part.map fold ∉ forbiddenSequences) {part : List Char}
    (hpart : part <:+: upper name) : part.map fold ∉ forbiddenSequences := by
  intro hforbidden
  -- three points are the only forbidden sequence that a name may hold
  have hmarks : ∀ s ∈ forbiddenSequences, (s.all fun y => y == '.') = true ∨
      (s.any fun y => !y.isAlpha && !isWordChar y && !Lexeme.isNameChar y) = true :=
    Text.forall_mem_of_all rfl
  simp only [List.all_eq_true, List.any_eq_true, beq_iff_eq, Bool.and_eq_true,
    Bool.not_eq_true'] at hmarks
  rcases hmarks _ hforbidden with hdots | ⟨y, hy, ⟨halpha, hword⟩, hchar⟩
  · have hdot : ∀ x ∈ part, x = '.' := fun x hx => by
      have hx' := hdots (fold x) (List.mem_map_of_mem hx)
      rw [← fold_eq_self (c := x) (by rw [hx']; decide), hx']
    refine h part (infix_of_infix_upper hpart fun x hx => ?_) hforbidden
    rw [hdot x hx]
    rfl
  · obtain ⟨x, hx, rfl⟩ := List.mem_map.mp hy
    rw [fold_eq_self halpha] at hword hchar
    rcases isWordChar_or_mem_of_mem_upper (hpart.subset hx) with hxword | hxname
    · exact absurd hxword (by simp [hword])
    · exact absurd (hname x hxname) (by simp [hchar])

/-- A safe name is safe in upper case too, unless it is disguised. -/
theorem isSafe_upper_iff {name : List Char} (hname : ∀ c ∈ name, Lexeme.isNameChar c = true)
    (hsafe : isSafe name = true) : isSafe (upper name) = true ↔ ¬Disguised name := by
  obtain ⟨hwords, hsequences⟩ := isSafe_iff.mp hsafe
  rw [isSafe_iff]
  constructor
  · rintro ⟨hupper, -⟩ ⟨word, hstanding, -, hforbidden⟩
    exact hupper _ hstanding.upper hforbidden
  · intro h
    refine ⟨fun part hstanding hforbidden => h ?_, fun part => sequences_of_upper hname hsequences⟩
    -- what is forbidden in upper case stands in the name, where it was not forbidden as it is written
    obtain ⟨word, hword, rfl⟩ := exists_of_standing_upper hstanding
    exact ⟨word, hword, exists_mem_disguises (hwords word hword) hforbidden, hforbidden⟩

end Formulary.Screen
