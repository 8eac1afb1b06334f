import Mathlib.Data.List.Forall2
import Formulary.Expression.Reader
import Formulary.Proofs.Screen.Forbidden

/-!
# The token that the screen finds

A forbidden token **occurs** in a text where a forbidden word stands, with no character of a word next to it, or
where a forbidden sequence starts; letter case does not matter. The screen finds a token exactly if one occurs,
and what it finds is the one that starts first, in lower case (`Screen.forbiddenToken?_exact`).

Words and sequences are looked for apart from one another, each from the left, and the earlier find counts. Two
tokens never start at one place: a word is a whole run of word characters, and no sequence starts with another
token or is the start of one (`OccursBehind.unique`). So it does not matter which of the two searches is asked
first, nor in which order the words are tried.
-/

namespace Formulary.Screen

/-- The characters that are folded to `d`, a character of ASCII that is not in upper case: itself, its upper
case, and of the letters outside ASCII the long s and the Kelvin sign. -/
def IsCaseOf (c d : Char) : Prop :=
  c = d ∨ c = d.toUpper ∨ (d = 's' ∧ c = '\u017f') ∨ (d = 'k' ∧ c = '\u212a')

/-- A part of a text is one of some tokens, in whatever letter case. -/
def Spells (tokens : List (List Char)) (part : List Char) : Prop :=
  ∃ token ∈ tokens, List.Forall₂ IsCaseOf part token

/-- A forbidden word stands in a text behind `before`; `inWord` says whether a word reaches up to the text. -/
def WordBehind (inWord : Bool) (before word text : List Char) : Prop :=
  ∃ after, text = before ++ word ++ after ∧ endsInWord inWord before = false ∧
    startsInWord after = false ∧ Spells forbiddenWords word

/-- A forbidden sequence is in a text behind `before`. -/
def SequenceBehind (before part text : List Char) : Prop :=
  ∃ after, text = before ++ part ++ after ∧ Spells forbiddenSequences part

/-- A forbidden token occurs in a text behind `before`. -/
def OccursBehind (before part text : List Char) : Prop :=
  WordBehind false before part text ∨ SequenceBehind before part text

/-- Of all places `before` at which something of a kind occurs, `part` does at the one that `n` characters are
before, and none has fewer before it. -/
def OccursFirst (Occurs : List Char → List Char → Prop) (n : Nat) (part : List Char) : Prop :=
  (∃ before, before.length = n ∧ Occurs before part) ∧
    ∀ before' part', Occurs before' part' → n ≤ before'.length

variable {inWord : Bool} {c d : Char} {before before' part part' word text rest : List Char}
  {position n i : Nat}

/-! ### Letter case -/

/-- Whether a character is of ASCII and not in upper case, as are all in which tokens are written. -/
def isPlain (d : Char) : Bool := d.toNat < 128 && !d.isUpper

theorem isPlain_iff : isPlain d = true ↔ d.toNat < 128 ∧ ¬d.isUpper = true := by
  simp [isPlain]

theorem toLower_eq_iff (hd : isPlain d = true) : c.toLower = d ↔ c = d ∨ c = d.toUpper := by
  obtain ⟨hascii, hlower⟩ := isPlain_iff.mp hd
  constructor
  · rintro rfl
    by_cases hupper : c.isUpper = true
    · exact Or.inr (Text.ascii_forall (P := fun c => c.isUpper = true → c = c.toLower.toUpper)
        (Text.forall_mem_of_all rfl) (toNat_lt_of_isUpper hupper) hupper)
    · exact Or.inl (toLower_eq_self hupper).symm
  · rintro (rfl | rfl)
    · exact toLower_eq_self hlower
    · exact Text.ascii_forall (P := fun d => ¬d.isUpper = true → d.toUpper.toLower = d)
        (Text.forall_mem_of_all rfl) hascii hlower

/-- Folding leaves a plain character of just the characters that may be written for it. -/
theorem fold_eq_iff (hd : isPlain d = true) : fold c = d ↔ IsCaseOf c d := by
  have hascii : d.toNat < 128 := (isPlain_iff.mp hd).1
  have hupper : d.toUpper.toNat < 128 :=
    Text.ascii_forall (P := fun d => d.toUpper.toNat < 128) (Text.forall_mem_of_all rfl) hascii
  -- the two letters outside ASCII are no other character in either case
  have houtside (x : Char) (hx : 128 ≤ x.toNat) : x ≠ d ∧ x ≠ d.toUpper := by
    constructor
    · rintro rfl
      omega
    · rintro rfl
      omega
  unfold fold IsCaseOf
  split
  · next hc =>
    subst hc
    simp [houtside '\u017f' (by decide), eq_comm]
  · split
    · next hc =>
      subst hc
      simp [houtside '\u212a' (by decide), eq_comm]
    · next hlong hkelvin => simp [hlong, hkelvin, toLower_eq_iff hd]

theorem forall₂_isCaseOf_iff {token : List Char} (h : token.all isPlain = true) :
    List.Forall₂ IsCaseOf part token ↔ part.map fold = token := by
  induction part generalizing token with
  | nil => cases token <;> simp
  | cons c part ih =>
    cases token with
    | nil => simp
    | cons d token =>
      rw [List.all_cons, Bool.and_eq_true] at h
      rw [List.forall₂_cons, ih h.2, ← fold_eq_iff h.1, List.map_cons, List.cons.injEq]

/-- What spells one of some tokens is one of them when it is folded. -/
theorem spells_iff {tokens : List (List Char)} (h : ∀ token ∈ tokens, token.all isPlain = true) :
    Spells tokens part ↔ part.map fold ∈ tokens := by
  constructor
  · rintro ⟨token, htoken, hpart⟩
    rwa [(forall₂_isCaseOf_iff (h token htoken)).mp hpart]
  · intro hmem
    exact ⟨_, hmem, (forall₂_isCaseOf_iff (h _ hmem)).mpr rfl⟩

theorem spells_words_iff : Spells forbiddenWords word ↔ word.map fold ∈ forbiddenWords :=
  spells_iff (by decide)

theorem spells_sequences_iff : Spells forbiddenSequences part ↔ part.map fold ∈ forbiddenSequences :=
  spells_iff (by decide)

/-! ### The first place -/

namespace OccursFirst

variable {Occurs Later : List Char → List Char → Prop}

theorem here (h : Occurs [] part) : OccursFirst Occurs 0 part :=
  ⟨⟨[], rfl, h⟩, fun _ _ _ => Nat.zero_le _⟩

/-- What occurs first behind a character occurs first, if nothing does before the character. -/
theorem cons (h : OccursFirst Later n part) (hnone : ∀ part', ¬Occurs [] part')
    (hcons : ∀ d before part', Occurs (d :: before) part' ↔ d = c ∧ Later before part') :
    OccursFirst Occurs (n + 1) part := by
  obtain ⟨⟨before, rfl, hbefore⟩, hfirst⟩ := h
  refine ⟨⟨c :: before, rfl, (hcons _ _ _).mpr ⟨rfl, hbefore⟩⟩, fun before' part' h' => ?_⟩
  cases before' with
  | nil => exact absurd h' (hnone part')
  | cons d before' => exact Nat.succ_le_succ (hfirst _ _ ((hcons _ _ _).mp h').2)

theorem or_left (h : OccursFirst Occurs n part)
    (hlater : ∀ before' part', Later before' part' → n ≤ before'.length) :
    OccursFirst (fun before part => Occurs before part ∨ Later before part) n part := by
  obtain ⟨⟨before, hn, hbefore⟩, hfirst⟩ := h
  exact ⟨⟨before, hn, Or.inl hbefore⟩, fun before' part' => (Or.elim · (hfirst _ _) (hlater _ _))⟩

theorem or_right (h : OccursFirst Occurs n part)
    (hlater : ∀ before' part', Later before' part' → n ≤ before'.length) :
    OccursFirst (fun before part => Later before part ∨ Occurs before part) n part := by
  obtain ⟨⟨before, hn, hbefore⟩, hfirst⟩ := h
  exact ⟨⟨before, hn, Or.inr hbefore⟩, fun before' part' => (Or.elim · (hlater _ _) (hfirst _ _))⟩

end OccursFirst

/-! ### What the searches find -/

theorem wordBehind_cons_iff : WordBehind inWord (d :: before) word (c :: rest) ↔
    d = c ∧ WordBehind (Text.isWordChar c) before word rest := by
  constructor
  · rintro ⟨after, htext, hbefore, hafter, hword⟩
    obtain ⟨rfl, rfl⟩ := List.cons.inj htext
    exact ⟨rfl, after, rfl, hbefore, hafter, hword⟩
  · rintro ⟨rfl, after, rfl, hbefore, hafter, hword⟩
    exact ⟨after, rfl, hbefore, hafter, hword⟩

theorem sequenceBehind_cons_iff : SequenceBehind (d :: before) part (c :: rest) ↔
    d = c ∧ SequenceBehind before part rest := by
  constructor
  · rintro ⟨after, htext, hpart⟩
    obtain ⟨rfl, rfl⟩ := List.cons.inj htext
    exact ⟨rfl, after, rfl, hpart⟩
  · rintro ⟨rfl, after, rfl, hpart⟩
    exact ⟨after, rfl, hpart⟩

theorem forbiddenWordAt?_eq_some (h : forbiddenWordAt? text = some word) :
    WordBehind false [] word text := by
  rw [forbiddenWordAt?] at h
  split at h
  · next hcontains =>
    obtain rfl := Option.some.inj h
    exact ⟨_, List.takeWhile_append_dropWhile.symm, rfl,
      startsInWord_eq_false_iff.mpr fun _ => eq_false_of_mem_head?_dropWhile,
      spells_words_iff.mpr (by simpa using hcontains)⟩
  · contradiction

theorem forbiddenSequenceAt?_eq_some (h : forbiddenSequenceAt? text = some part) :
    SequenceBehind [] part text := by
  obtain ⟨s, hfind, rfl⟩ := Option.map_eq_some_iff.mp h
  have hfold : (text.take s.length).map fold = s := by simpa using List.find?_some hfind
  refine ⟨_, (List.take_append_drop s.length text).symm, spells_sequences_iff.mpr ?_⟩
  rw [hfold]
  exact List.mem_of_find?_eq_some hfind

/-- The search for words finds the first one. -/
theorem firstWord?_eq_some (h : firstWord? position inWord text = some (i, word)) :
    ∃ n, i = position + n ∧
      OccursFirst (fun before part => WordBehind inWord before part text) n word := by
  induction text generalizing position inWord with
  | nil => contradiction
  | cons c rest ih =>
    rw [firstWord?] at h
    -- a word is found here only if none reaches up to here
    split at h
    · next here hhere =>
      obtain ⟨rfl, rfl⟩ := Prod.mk.inj (Option.some.inj h)
      cases inWord with
      | true => contradiction
      | false => exact ⟨0, rfl, .here (forbiddenWordAt?_eq_some hhere)⟩
    · next hnone =>
      obtain ⟨n, rfl, hfirst⟩ := ih h
      refine ⟨n + 1, by omega, hfirst.cons (fun word' hhere => ?_) fun _ _ _ => wordBehind_cons_iff⟩
      obtain ⟨after, htext, hinWord, hafter, hword⟩ := hhere
      obtain rfl : inWord = false := hinWord
      exact forbiddenWordAt?_eq_none_iff.mp hnone word' after htext hafter (spells_words_iff.mp hword)

/-- The search for sequences finds the first one. -/
theorem firstSequence?_eq_some (h : firstSequence? position text = some (i, part)) :
    ∃ n, i = position + n ∧ OccursFirst (fun before part => SequenceBehind before part text) n part := by
  induction text generalizing position with
  | nil => contradiction
  | cons c rest ih =>
    rw [firstSequence?] at h
    split at h
    · next here hhere =>
      obtain ⟨rfl, rfl⟩ := Prod.mk.inj (Option.some.inj h)
      exact ⟨0, rfl, .here (forbiddenSequenceAt?_eq_some hhere)⟩
    · next hnone =>
      -- nothing stands here, so what comes first in the rest comes first
      obtain ⟨n, rfl, hfirst⟩ := ih h
      refine ⟨n + 1, by omega, hfirst.cons (fun part' hhere => ?_) fun _ _ _ => sequenceBehind_cons_iff⟩
      obtain ⟨after, htext, hpart⟩ := hhere
      exact forbiddenSequenceAt?_eq_none_iff.mp hnone part' after htext (spells_sequences_iff.mp hpart)

theorem not_wordBehind (h : firstWord? 0 false text = none) : ¬WordBehind false before word text := by
  rintro ⟨after, htext, hbefore, hafter, hword⟩
  exact (firstWord?_eq_none_iff 0).mp h word ⟨before, after, htext, hbefore, hafter⟩
    (spells_words_iff.mp hword)

theorem not_sequenceBehind (h : firstSequence? 0 text = none) : ¬SequenceBehind before part text := by
  rintro ⟨after, htext, hpart⟩
  exact (firstSequence?_eq_none_iff 0).mp h part ⟨before, after, htext.symm⟩ (spells_sequences_iff.mp hpart)

/-- What the screen finds occurs first of all. -/
theorem occursFirst_of_earlier? (h : earlier? (firstWord? 0 false text) (firstSequence? 0 text) = some part) :
    ∃ n, OccursFirst (fun before part => OccursBehind before part text) n part := by
  cases hword : firstWord? 0 false text with
  | none =>
    have hnoWord (n : Nat) : ∀ before' part', WordBehind false before' part' text → n ≤ before'.length :=
      fun _ _ hbehind => absurd hbehind (not_wordBehind hword)
    cases hsequence : firstSequence? 0 text with
    | none => simp [hword, hsequence, earlier?] at h
    | some found =>
      obtain ⟨m, -, hfirst⟩ := firstSequence?_eq_some hsequence
      obtain rfl : found.2 = part := by simpa [hword, hsequence, earlier?] using h
      exact ⟨m, hfirst.or_right (hnoWord m)⟩
  | some found =>
    obtain ⟨n, hn, hfirst⟩ := firstWord?_eq_some hword
    cases hsequence : firstSequence? 0 text with
    | none =>
      obtain rfl : found.2 = part := by simpa [hword, hsequence, earlier?] using h
      exact ⟨n, hfirst.or_left fun _ _ hbehind => absurd hbehind (not_sequenceBehind hsequence)⟩
    | some found' =>
      obtain ⟨m, hm, hfirst'⟩ := firstSequence?_eq_some hsequence
      simp only [hword, hsequence, earlier?, Option.some.injEq] at h
      -- each is the first of its kind, so the earlier is the first of all
      by_cases hle : found.1 ≤ found'.1
      · rw [if_pos hle] at h
        subst h
        exact ⟨n, hfirst.or_left fun _ _ hbehind => by have := hfirst'.2 _ _ hbehind; omega⟩
      · rw [if_neg hle] at h
        subst h
        exact ⟨m, hfirst'.or_right fun _ _ hbehind => by have := hfirst.2 _ _ hbehind; omega⟩

/-! ### Two tokens do not start at one place -/

/-- A forbidden word is the whole run of word characters at its place. -/
theorem eq_of_words {after after' : List Char} (heq : part ++ after = part' ++ after')
    (hpart : part.map fold ∈ forbiddenWords) (hafter : startsInWord after = false)
    (hpart' : part'.map fold ∈ forbiddenWords) (hafter' : startsInWord after' = false) : part = part' :=
  calc part
      = (part ++ after).takeWhile Text.isWordChar :=
        (takeWhile_append_eq (isWordChar_of_forbidden hpart) (startsInWord_eq_false_iff.mp hafter)).symm
    _ = (part' ++ after').takeWhile Text.isWordChar := by rw [heq]
    _ = part' := takeWhile_append_eq (isWordChar_of_forbidden hpart') (startsInWord_eq_false_iff.mp hafter')

/-- Nothing that is forbidden starts with a forbidden sequence, or is the start of one, but itself. -/
theorem eq_of_prefix_sequence {s t : List Char} (hs : s ∈ forbiddenSequences)
    (ht : t ∈ forbiddenWords ++ forbiddenSequences) (h : s <+: t ∨ t <+: s) : s = t := by
  have hapart : ∀ s ∈ forbiddenSequences, ∀ t ∈ forbiddenWords ++ forbiddenSequences,
      s <+: t ∨ t <+: s → s = t := by decide
  exact hapart s hs t ht h

/-- A forbidden sequence is all that is forbidden at its place. -/
theorem eq_of_sequence {after after' : List Char} (heq : part ++ after = part' ++ after')
    (hpart : part.map fold ∈ forbiddenSequences)
    (hpart' : part'.map fold ∈ forbiddenWords ++ forbiddenSequences) : part = part' := by
  have hfront : part.map fold <+: (part ++ after).map fold := (List.prefix_append part after).map fold
  have hfront' : part'.map fold <+: (part ++ after).map fold := by
    rw [heq]
    exact (List.prefix_append part' after').map fold
  have hsame := eq_of_prefix_sequence hpart hpart' (List.prefix_or_prefix_of_prefix hfront hfront')
  have hlength : part.length = part'.length := by simpa using congrArg List.length hsame
  exact (List.append_inj heq hlength).1

/-- What occurs at a place is determined by it. -/
theorem OccursBehind.unique (h : OccursBehind before part text) (h' : OccursBehind before' part' text)
    (hlength : before.length = before'.length) : before = before' ∧ part = part' := by
  have hplace {after after' : List Char} (htext : text = before ++ part ++ after)
      (htext' : text = before' ++ part' ++ after') : before = before' ∧ part ++ after = part' ++ after' := by
    rw [htext, List.append_assoc, List.append_assoc] at htext'
    exact List.append_inj htext' hlength
  -- whichever of the two are words and which are sequences, they stand in front of the same text
  rcases h with ⟨after, htext, -, hafter, hpart⟩ | ⟨after, htext, hpart⟩ <;>
    rcases h' with ⟨after', htext', -, hafter', hpart'⟩ | ⟨after', htext', hpart'⟩ <;>
    obtain ⟨hbefore, heq⟩ := hplace htext htext' <;>
    simp only [spells_words_iff, spells_sequences_iff] at hpart hpart' <;>
    refine ⟨hbefore, ?_⟩
  · exact eq_of_words heq hpart hafter hpart' hafter'
  · exact (eq_of_sequence heq.symm hpart' (List.mem_append_left _ hpart)).symm
  · exact eq_of_sequence heq hpart (List.mem_append_left _ hpart')
  · exact eq_of_sequence heq hpart (List.mem_append_right _ hpart')

/-! ### The screen is exact -/

theorem isSafe_eq_false_of_occursBehind (h : OccursBehind before part text) : isSafe text = false := by
  refine Bool.eq_false_iff.mpr fun hsafe => ?_
  obtain ⟨hwords, hsequences⟩ := isSafe_iff.mp hsafe
  rcases h with ⟨after, htext, hbefore, hafter, hword⟩ | ⟨after, htext, hpart⟩
  · exact hwords part ⟨before, after, htext, hbefore, hafter⟩ (spells_words_iff.mp hword)
  · exact hsequences part ⟨before, after, htext.symm⟩ (spells_sequences_iff.mp hpart)

/-- No text that is not safe is read. -/
theorem exists_ofText_eq_error (h : isSafe text = false) (limits : Limits) :
    ∃ fault, Expression.ofText limits (String.ofList text) = .error fault := by
  rw [Expression.ofText, String.toList_ofList, Expression.ofChars]
  cases hcheck : check limits text with
  | ok _ => exact absurd (check_eq_ok_iff.mp hcheck).2.2.2 (by simp [h])
  | error fault => exact ⟨fault, rfl⟩

/-- **The screen is exact.** It finds a token in a text exactly if one occurs there; what it finds is, in lower
case, the one that starts before every other; and a text in which one occurs is neither safe nor ever read. -/
theorem forbiddenToken?_exact (text : List Char) :
    ((∃ token, forbiddenToken? text = some token) ↔ ∃ before part, OccursBehind before part text) ∧
    (∀ token, forbiddenToken? text = some token →
      ∃ before part, OccursBehind before part text ∧ token = Text.lower part ∧
        ∀ before' part', OccursBehind before' part' text →
          before.length < before'.length ∨ (before' = before ∧ part' = part)) ∧
    (∀ before part, OccursBehind before part text →
      isSafe text = false ∧
        ∀ limits, ∃ fault, Expression.ofText limits (String.ofList text) = .error fault) := by
  have hfound : ∀ token, forbiddenToken? text = some token →
      ∃ before part, OccursBehind before part text ∧ token = Text.lower part ∧
        ∀ before' part', OccursBehind before' part' text →
          before.length < before'.length ∨ (before' = before ∧ part' = part) := by
    intro token htoken
    obtain ⟨part, hearlier, rfl⟩ := Option.map_eq_some_iff.mp htoken
    obtain ⟨_, ⟨before, rfl, hbefore⟩, hfirst⟩ := occursFirst_of_earlier? hearlier
    refine ⟨before, part, hbefore, rfl, fun before' part' h' => ?_⟩
    -- none starts earlier, and what starts at the same place is the same
    rcases Nat.lt_or_eq_of_le (hfirst before' part' h') with hlt | hlength
    · exact Or.inl hlt
    · exact Or.inr (h'.unique hbefore hlength.symm)
  refine ⟨⟨?_, ?_⟩, hfound, ?_⟩
  · rintro ⟨token, htoken⟩
    obtain ⟨before, part, hbefore, -⟩ := hfound token htoken
    exact ⟨before, part, hbefore⟩
  · rintro ⟨before, part, hbefore⟩
    exact Option.isSome_iff_exists.mp (Option.isNone_eq_false_iff.mp (isSafe_eq_false_of_occursBehind hbefore))
  · intro before part hbefore
    have hrefused := isSafe_eq_false_of_occursBehind hbefore
    exact ⟨hrefused, exists_ofText_eq_error hrefused⟩

/-- The word that occurs first is found behind a name that starts with another one. -/
theorem forbiddenToken?_exact_execute :
    (∃ before part, OccursBehind before part "processingFee + Execute(file)".toList ∧
      "execute".toList = Text.lower part ∧
        ∀ before' part', OccursBehind before' part' "processingFee + Execute(file)".toList →
          before.length < before'.length ∨ (before' = before ∧ part' = part)) ∧
    ∀ limits, ∃ fault, Expression.ofText limits "processingFee + Execute(file)" = .error fault := by
  have htoken : forbiddenToken? "processingFee + Execute(file)".toList = some "execute".toList := rfl
  obtain ⟨hoccurs, hfirst, hrefused⟩ := forbiddenToken?_exact "processingFee + Execute(file)".toList
  obtain ⟨before, part, hbefore⟩ := hoccurs.mp ⟨_, htoken⟩
  refine ⟨hfirst _ htoken, fun limits => ?_⟩
  simpa only [String.ofList_toList] using (hrefused before part hbefore).2 limits

end Formulary.Screen
