import Formulary.Expression.Screen
import Formulary.Proofs.Outcome
import Formulary.Proofs.Text.Classes
import Formulary.Proofs.Text.Spans

/-!
# What the screen for forbidden tokens finds

A text is safe if and only if no forbidden word **stands** in it, that is, with no character of a word
next to it on either side, and no forbidden sequence is a part of it (`isSafe_iff`). So the parts of a
safe text that stand in it are safe themselves (`isSafe_of_standing`).
-/

namespace Formulary.Screen

/-! ### Standing in a text -/

/-- Whether a text ends within a word, if `inWord` says so of what is before it. -/
def endsInWord (inWord : Bool) : List Char → Bool
  | [] => inWord
  | c :: rest => endsInWord (Text.isWordChar c) rest

@[simp] theorem endsInWord_nil (inWord : Bool) : endsInWord inWord [] = inWord := rfl

@[simp] theorem endsInWord_cons (inWord : Bool) (c : Char) (rest : List Char) :
    endsInWord inWord (c :: rest) = endsInWord (Text.isWordChar c) rest := rfl

@[simp] theorem endsInWord_append (inWord : Bool) (text more : List Char) :
    endsInWord inWord (text ++ more) = endsInWord (endsInWord inWord text) more := by
  induction text generalizing inWord with
  | nil => rfl
  | cons c rest ih => exact ih _

theorem endsInWord_of_ne_nil {text : List Char} (h : text ≠ []) (inWord inWord' : Bool) :
    endsInWord inWord text = endsInWord inWord' text := by
  cases text with
  | nil => exact absurd rfl h
  | cons c rest => rfl

/-- What is in no word ends in none. -/
theorem endsInWord_eq_false {text : List Char} (h : ∀ c ∈ text, Text.isWordChar c = false) :
    endsInWord false text = false := by
  induction text with
  | nil => rfl
  | cons c rest ih =>
    obtain ⟨hc, hrest⟩ := List.forall_mem_cons.mp h
    rw [endsInWord_cons, hc]
    exact ih hrest

/-- Whether a text starts with a character of a word. -/
def startsInWord : List Char → Bool
  | [] => false
  | c :: _ => Text.isWordChar c

@[simp] theorem startsInWord_nil : startsInWord [] = false := rfl

@[simp] theorem startsInWord_cons (c : Char) (rest : List Char) :
    startsInWord (c :: rest) = Text.isWordChar c := rfl

theorem startsInWord_eq_false_iff {text : List Char} :
    startsInWord text = false ↔ ∀ c ∈ text.head?, Text.isWordChar c = false := by
  cases text <;> simp

theorem startsInWord_append {text more : List Char} (htext : startsInWord text = false)
    (hmore : startsInWord more = false) : startsInWord (text ++ more) = false := by
  cases text with
  | nil => exact hmore
  | cons c rest => exact htext

/-- `part` is a part of `text`, with no character of a word next to it on either side; `inWord` says
whether there is one before the text. -/
def Standing (inWord : Bool) (part text : List Char) : Prop :=
  ∃ before after, text = before ++ part ++ after ∧ endsInWord inWord before = false ∧
    startsInWord after = false

namespace Standing

variable {inWord : Bool} {part text : List Char}

theorem sublist (h : Standing inWord part text) : part.Sublist text := by
  obtain ⟨before, after, rfl, -, -⟩ := h
  rw [List.append_assoc]
  exact (List.sublist_append_left part after).trans (List.sublist_append_right before _)

/-- What stands in a part that stands in a text stands in the text. -/
theorem trans {inner : List Char} (hinner : Standing false inner part)
    (h : Standing inWord part text) : Standing inWord inner text := by
  obtain ⟨before, after, rfl, hbefore, hafter⟩ := h
  obtain ⟨before', after', rfl, hbefore', hafter'⟩ := hinner
  refine ⟨before ++ before', after' ++ after, by simp only [List.append_assoc], ?_,
    startsInWord_append hafter' hafter⟩
  rw [endsInWord_append, hbefore, hbefore']

/-- What stands in a text stands in a longer one. -/
theorem prepend {inWord' : Bool} (h : Standing inWord part text) (before : List Char)
    (hbefore : endsInWord inWord' before = inWord) : Standing inWord' part (before ++ text) := by
  obtain ⟨before', after, rfl, hbefore', hafter⟩ := h
  refine ⟨before ++ before', after, by simp only [List.append_assoc], ?_, hafter⟩
  rw [endsInWord_append, hbefore, hbefore']

end Standing

/-- A part stands at the very start of a text or behind its first character. -/
theorem standing_cons_iff {inWord : Bool} {part text : List Char} {c : Char} :
    Standing inWord part (c :: text) ↔
      (inWord = false ∧ ∃ after, c :: text = part ++ after ∧ startsInWord after = false) ∨
        Standing (Text.isWordChar c) part text := by
  constructor
  · rintro ⟨before, after, htext, hbefore, hafter⟩
    cases before with
    | nil => exact Or.inl ⟨hbefore, after, htext, hafter⟩
    | cons d before =>
      obtain ⟨rfl, rfl⟩ := List.cons.inj htext
      exact Or.inr ⟨before, after, rfl, hbefore, hafter⟩
  · rintro (⟨hinWord, after, htext, hafter⟩ | h)
    · exact ⟨[], after, htext, hinWord, hafter⟩
    · exact h.prepend [c] rfl

/-! ### Forbidden words -/

theorem toLower_eq_self {c : Char} (h : ¬c.isUpper = true) : c.toLower = c :=
  dif_neg fun hrange => h (decide_eq_true hrange)

theorem isAlpha_of_isUpper {c : Char} (h : c.isUpper = true) : c.isAlpha = true :=
  Bool.or_eq_true_iff.mpr (Or.inl h)

theorem toNat_lt_of_isUpper {c : Char} (h : c.isUpper = true) : c.toNat < 128 :=
  Text.toNat_lt_of_isAlphanum (by rw [Char.isAlphanum, isAlpha_of_isUpper h, Bool.true_or])

/-- Lower case for ASCII changes nothing but letters, and these to letters. -/
theorem toLower_cases (c : Char) :
    c.toLower = c ∨ c.isAlpha = true ∧ c.toLower.isAlpha = true := by
  by_cases hupper : c.isUpper = true
  · refine Or.inr ⟨isAlpha_of_isUpper hupper, ?_⟩
    exact Text.ascii_forall (P := fun c => c.isUpper = true → c.toLower.isAlpha = true)
      (Text.forall_mem_of_all rfl) (toNat_lt_of_isUpper hupper) hupper
  · exact Or.inl (toLower_eq_self hupper)

/-- Only letters change when they are folded. -/
theorem fold_eq_self {c : Char} (h : (fold c).isAlpha = false) : fold c = c := by
  -- the long s and the Kelvin sign are folded to letters, anything else to what it is in lower case
  unfold fold at h
  split at h
  · exact absurd h (by decide)
  · next hlong =>
    split at h
    · exact absurd h (by decide)
    · next hkelvin =>
      rw [fold, if_neg hlong, if_neg hkelvin]
      exact (toLower_cases c).resolve_right fun hletter => by simp [hletter.2] at h

/-- Only characters of words become letters when they are folded. -/
theorem isWordChar_of_isAlpha_fold {c : Char} (h : (fold c).isAlpha = true) :
    Text.isWordChar c = true := by
  unfold fold at h
  split at h
  · next hc => subst hc; decide
  · split at h
    · next hc => subst hc; decide +kernel
    · have halpha : c.isAlpha = true := by
        rcases toLower_cases c with hself | hletter
        · rwa [hself] at h
        · exact hletter.1
      exact Text.isWordChar_of_isAlphanum (by rw [Char.isAlphanum, halpha, Bool.true_or])

/-- The forbidden words are made of letters. -/
theorem isAlpha_of_mem_forbidden {word : List Char} (h : word ∈ forbiddenWords) {c : Char}
    (hc : c ∈ word) : c.isAlpha = true := by
  have hletters : ∀ w ∈ forbiddenWords, w.all Char.isAlpha = true := by decide
  exact List.all_eq_true.mp (hletters word h) c hc

theorem isWordChar_of_forbidden {word : List Char} (h : word.map fold ∈ forbiddenWords) :
    ∀ c ∈ word, Text.isWordChar c = true := fun _ hc =>
  isWordChar_of_isAlpha_fold (isAlpha_of_mem_forbidden h (List.mem_map_of_mem hc))

theorem forbiddenWordAt?_eq_none_iff {text : List Char} :
    forbiddenWordAt? text = none ↔
      ∀ word after, text = word ++ after → startsInWord after = false →
        word.map fold ∉ forbiddenWords := by
  have hdef : forbiddenWordAt? text = none ↔
      (text.takeWhile Text.isWordChar).map fold ∉ forbiddenWords := by
    simp [forbiddenWordAt?]
  rw [hdef]
  constructor
  · rintro h word after rfl hafter hword
    -- the whole of a forbidden word is what is taken
    rw [takeWhile_append_eq (isWordChar_of_forbidden hword) (startsInWord_eq_false_iff.mp hafter)] at h
    exact h hword
  · intro h
    exact h _ _ List.takeWhile_append_dropWhile.symm
      (startsInWord_eq_false_iff.mpr fun _ => eq_false_of_mem_head?_dropWhile)

theorem firstWord?_eq_none_iff (position : Nat) {inWord : Bool} {text : List Char} :
    firstWord? position inWord text = none ↔
      ∀ word, Standing inWord word text → word.map fold ∉ forbiddenWords := by
  induction text generalizing position inWord with
  | nil =>
    refine iff_of_true rfl ?_
    rintro word ⟨before, after, htext, -, -⟩
    simp only [List.nil_eq, List.append_eq_nil_iff] at htext
    -- the empty word is not forbidden
    obtain ⟨⟨-, rfl⟩, -⟩ := htext
    decide
  | cons c rest ih =>
    -- a forbidden word begins here, where no word goes on, or further on
    have hstep : firstWord? position inWord (c :: rest) = none ↔
        (inWord = false → forbiddenWordAt? (c :: rest) = none) ∧
          firstWord? (position + 1) (Text.isWordChar c) rest = none := by
      rw [firstWord?]
      cases inWord <;> cases forbiddenWordAt? (c :: rest) <;> simp
    rw [hstep, ih, forbiddenWordAt?_eq_none_iff]
    constructor
    · rintro ⟨hhere, hlater⟩ word hstanding
      rcases standing_cons_iff.mp hstanding with ⟨hinWord, after, htext, hafter⟩ | hrest
      · exact hhere hinWord word after htext hafter
      · exact hlater word hrest
    · intro h
      refine ⟨fun hinWord word after htext hafter => h word ?_, fun word hrest => h word ?_⟩
      · exact standing_cons_iff.mpr (Or.inl ⟨hinWord, after, htext, hafter⟩)
      · exact standing_cons_iff.mpr (Or.inr hrest)

/-! ### Forbidden sequences -/

theorem forbiddenSequenceAt?_eq_none_iff {text : List Char} :
    forbiddenSequenceAt? text = none ↔
      ∀ part after, text = part ++ after → part.map fold ∉ forbiddenSequences := by
  have hdef : forbiddenSequenceAt? text = none ↔
      ∀ s ∈ forbiddenSequences, (text.take s.length).map fold ≠ s := by
    simp [forbiddenSequenceAt?]
  rw [hdef]
  constructor
  · rintro h part after rfl hpart
    refine h _ hpart ?_
    rw [List.length_map, List.take_left]
  · intro h s hs heq
    refine h _ _ (List.take_append_drop s.length text).symm ?_
    rwa [heq]

theorem firstSequence?_eq_none_iff (position : Nat) {text : List Char} :
    firstSequence? position text = none ↔
      ∀ part, part <:+: text → part.map fold ∉ forbiddenSequences := by
  induction text generalizing position with
  | nil =>
    refine iff_of_true rfl fun part hpart => ?_
    rw [List.eq_nil_of_infix_nil hpart]
    decide
  | cons c rest ih =>
    -- a sequence may begin anywhere, within a word too
    have hstep : firstSequence? position (c :: rest) = none ↔
        forbiddenSequenceAt? (c :: rest) = none ∧ firstSequence? (position + 1) rest = none := by
      rw [firstSequence?]
      cases forbiddenSequenceAt? (c :: rest) <;> simp
    rw [hstep, ih, forbiddenSequenceAt?_eq_none_iff]
    constructor
    · rintro ⟨hhere, hlater⟩ part hpart
      rcases List.infix_cons_iff.mp hpart with ⟨after, hprefix⟩ | hrest
      · exact hhere part after hprefix.symm
      · exact hlater part hrest
    · intro h
      refine ⟨fun part after htext => h part ?_, fun part hrest => h part ?_⟩
      · exact List.infix_cons_iff.mpr (Or.inl ⟨after, htext.symm⟩)
      · exact List.infix_cons_iff.mpr (Or.inr hrest)

/-! ### Safe texts -/

/-- A text is safe if no forbidden word stands in it and no forbidden sequence is a part of it. -/
theorem isSafe_iff {text : List Char} :
    isSafe text = true ↔
      (∀ word, Standing false word text → word.map fold ∉ forbiddenWords) ∧
        ∀ part, part <:+: text → part.map fold ∉ forbiddenSequences := by
  rw [← firstWord?_eq_none_iff 0, ← firstSequence?_eq_none_iff 0, isSafe, forbiddenToken?]
  cases firstWord? 0 false text <;> cases firstSequence? 0 text <;> simp [earlier?]

/-- What stands in a safe text is safe. -/
theorem isSafe_of_standing {part text : List Char} (h : Standing false part text)
    (hsafe : isSafe text = true) : isSafe part = true := by
  obtain ⟨hwords, hsequences⟩ := isSafe_iff.mp hsafe
  refine isSafe_iff.mpr ⟨fun word hword => hwords word (hword.trans h), fun s hs => ?_⟩
  obtain ⟨before, after, rfl, -, -⟩ := h
  exact hsequences s (hs.trans ⟨before, after, rfl⟩)

/-- A text with a character that is neither in a word nor in a forbidden sequence is safe if what is before it and
what is behind it are. -/
theorem isSafe_append_cons_iff {c : Char} {text more : List Char} (hword : Text.isWordChar c = false)
    (hsequence : ∀ s ∈ forbiddenSequences, fold c ∉ s) :
    isSafe (text ++ c :: more) = true ↔ isSafe text = true ∧ isSafe more = true := by
  constructor
  · intro h
    refine ⟨isSafe_of_standing ⟨[], c :: more, rfl, rfl, hword⟩ h,
      isSafe_of_standing ⟨text ++ [c], [], by simp, ?_, rfl⟩ h⟩
    rw [endsInWord_append, endsInWord_cons, endsInWord_nil, hword]
  · rintro ⟨htext, hmore⟩
    obtain ⟨hwords, hsequences⟩ := isSafe_iff.mp htext
    obtain ⟨hwords', hsequences'⟩ := isSafe_iff.mp hmore
    refine isSafe_iff.mpr ⟨?_, ?_⟩
    · rintro word ⟨before, after, heq, hbefore, hafter⟩ hforbidden
      -- a forbidden word is made of letters, so it lies on one side of the character
      have hc : c ∉ word := fun hmem => by simp [isWordChar_of_forbidden hforbidden c hmem] at hword
      rcases exists_of_append_cons hc heq with ⟨after', rfl, rfl⟩ | ⟨before', rfl, rfl⟩
      · refine hwords word ⟨before, after', rfl, hbefore, ?_⟩ hforbidden
        cases after' with
        | nil => rfl
        | cons d after' => exact hafter
      · refine hwords' word ⟨before', after, rfl, ?_, hafter⟩ hforbidden
        rwa [endsInWord_append, endsInWord_cons, hword] at hbefore
    · rintro part ⟨before, after, heq⟩ hforbidden
      -- the character is in no forbidden sequence, so that lies on one side too
      have hc : c ∉ part := fun hmem => hsequence _ hforbidden (List.mem_map_of_mem hmem)
      rcases exists_of_append_cons hc heq.symm with ⟨after', rfl, -⟩ | ⟨before', -, rfl⟩
      · exact hsequences part ⟨before, after', rfl⟩ hforbidden
      · exact hsequences' part ⟨before', after, rfl⟩ hforbidden

/-! ### All checks -/

theorem check_eq_ok_iff {limits : Limits} {text : List Char} :
    check limits text = .ok () ↔
      Text.isAllBlank text = false ∧ text.length ≤ limits.maxLength ∧
        checkParentheses text = .ok () ∧ isSafe text = true := by
  have hsafe : isSafe text = true ↔ forbiddenToken? text = none := by
    rw [isSafe, Option.isNone_iff_eq_none]
  rw [hsafe, check]
  -- check by check, in the order in which they are made
  by_cases hblank : Text.isAllBlank text = true
  · simp [hblank, throw, throwThe, MonadExceptOf.throw]
  by_cases hlong : limits.maxLength < text.length
  · simp [hblank, hlong, Nat.not_le.mpr hlong, throw, throwThe, MonadExceptOf.throw]
  cases hparentheses : checkParentheses text with
  | error fault => simp [hblank, hlong]
  | ok _ =>
    cases htoken : forbiddenToken? text with
    | none => simp [hblank, Nat.le_of_not_lt hlong, hlong, pure, Except.pure]
    | some token => simp [hblank, hlong, throw, throwThe, MonadExceptOf.throw]

/-- The checks come in this order, and the first that fails is what the text is refused for. -/
theorem check_eq_error {limits : Limits} {text : List Char} {fault : Fault}
    (h : check limits text = .error fault) :
    (Text.isAllBlank text = true ∧ fault = .emptyExpression) ∨
      Text.isAllBlank text = false ∧
        ((limits.maxLength < text.length ∧ fault = .expressionTooLong text.length limits.maxLength) ∨
          text.length ≤ limits.maxLength ∧
            (checkParentheses text = .error fault ∨
              checkParentheses text = .ok () ∧ ∃ token, forbiddenToken? text = some token ∧
                fault = .unsafeExpression (String.ofList token))) := by
  rw [check] at h
  -- each check is passed before the next is made
  by_cases hblank : Text.isAllBlank text = true
  · rw [if_pos hblank] at h
    exact Or.inl ⟨hblank, (Except.error.inj h).symm⟩
  rw [if_neg hblank] at h
  refine Or.inr ⟨Bool.not_eq_true _ ▸ hblank, ?_⟩
  by_cases hlong : limits.maxLength < text.length
  · rw [if_pos hlong] at h
    exact Or.inl ⟨hlong, (Except.error.inj h).symm⟩
  rw [if_neg hlong] at h
  refine Or.inr ⟨Nat.le_of_not_lt hlong, ?_⟩
  cases hparentheses : checkParentheses text with
  | error other =>
    rw [hparentheses] at h
    obtain rfl : other = fault := Except.error.inj h
    exact Or.inl rfl
  | ok _ =>
    rw [hparentheses] at h
    cases htoken : forbiddenToken? text with
    | none =>
      rw [htoken] at h
      contradiction
    | some token =>
      rw [htoken] at h
      exact Or.inr ⟨rfl, token, rfl, (Except.error.inj h).symm⟩

end Formulary.Screen
