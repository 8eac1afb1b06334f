import Formulary.Proofs.Lexeme.Places
import Formulary.Proofs.Screen.Forbidden
import Formulary.Proofs.Screen.Parentheses

/-!
# Where the screen finds fault

The screen goes through a text as it is, white space at its ends included. So the positions that it tells count the
bytes of the text (`Screen.check_stands`), and white space put before the text moves them by its length and changes
nothing else (`Screen.check_blanks`), as long as the text does not become too long.
-/

namespace Formulary.Screen

/-! ### Places -/

/-- A parenthesis is opened at a position of a text. -/
def OpenedAt (position : Nat) (text : List Char) : Prop :=
  ∃ before after, text = before ++ '(' :: after ∧ position = Text.byteLength before

theorem OpenedAt.append {position : Nat} {text : List Char} (h : OpenedAt position text)
    (more : List Char) : OpenedAt position (text ++ more) := by
  obtain ⟨before, after, rfl, hposition⟩ := h
  exact ⟨before, after ++ more, by simp, hposition⟩

/-- What the rest of a text starts with stands behind the bytes before it. -/
theorem stands_behind {fault : Fault} {front text : List Char}
    (hfault : fault.position? = some (Text.byteLength front)) (hpoints : fault.PointsTo [] text) :
    fault.Stands 0 (front ++ text) :=
  .prepend (Fault.stands_here (by rw [hfault, Nat.zero_add]) hpoints)

/-- In the rest of a text the check finds fault at places of the text, if it counts the bytes before the rest and
remembers a parenthesis there, in case that one is open. -/
theorem checkParenthesesFrom_stands (position depth lastOpen : Nat) (text : List Char) :
    ∀ front, position = Text.byteLength front → (depth ≠ 0 → OpenedAt lastOpen front) →
      FailsWith (fun fault => fault.Stands 0 (front ++ text))
        (checkParenthesesFrom position depth lastOpen text) := by
  -- the front grows with each step by what the check has gone over
  fun_induction checkParenthesesFrom position depth lastOpen text with
  | case1 => exact fun _ _ _ => .ok _
  | case2 position depth lastOpen hdepth =>
    intro front _ hopened
    -- the parenthesis that is remembered stands in front of the end
    obtain ⟨before, after, rfl, rfl⟩ := hopened hdepth
    refine .error fun p hp => ⟨before, '(' :: after, by simp, ?_, Or.inl rfl⟩
    rw [Nat.zero_add]
    exact (Option.some.inj hp).symm
  | case3 position depth lastOpen c rest hquote =>
    rintro front rfl -
    exact .error (stands_behind rfl (hquote.imp (congrArg some) (congrArg some)))
  | case4 position depth lastOpen c rest next hquote t ht ih =>
    rintro front rfl hopened
    obtain ⟨written, hwritten⟩ := Text.rest_suffix_of_afterQuote? ht
    have hconsumed : t.consumed = written := Taken.consumed_eq hwritten.symm
    have hrest := ih (front ++ c :: written) (by simp [next, hconsumed, Nat.add_assoc])
      fun hdepth => (hopened hdepth).append _
    rwa [List.append_assoc, List.cons_append, hwritten] at hrest
  | case5 position depth lastOpen rest next _ ih =>
    rintro front rfl hopened
    -- from here on it is this one that is remembered
    have hrest := ih (front ++ ['(']) (by simp [next]) fun _ => ⟨front, [], rfl, rfl⟩
    rwa [List.append_assoc, List.singleton_append] at hrest
  | case6 position lastOpen rest =>
    rintro front rfl -
    exact .error (stands_behind rfl (Or.inr rfl))
  | case7 position depth lastOpen rest hdepth next _ _ ih =>
    rintro front rfl hopened
    have hrest := ih (front ++ [')']) (by simp [next]) fun _ => (hopened hdepth).append _
    rwa [List.append_assoc, List.singleton_append] at hrest
  | case8 position depth lastOpen c rest next _ _ _ ih =>
    rintro front rfl hopened
    have hrest := ih (front ++ [c]) (by simp [next]) fun hdepth => (hopened hdepth).append _
    rwa [List.append_assoc, List.singleton_append] at hrest

/-- **What the screen tells a position of stands there.** -/
theorem check_stands (limits : Limits) (text : List Char) :
    FailsWith (fun fault => fault.Stands 0 text) (check limits text) := by
  intro fault h
  rcases check_eq_error h with ⟨-, rfl⟩ | ⟨-, ⟨-, rfl⟩ | ⟨-, hparentheses | ⟨-, token, -, rfl⟩⟩⟩
  · exact Fault.stands_of_position? rfl _ _
  · exact Fault.stands_of_position? rfl _ _
  · exact checkParenthesesFrom_stands 0 0 0 text [] rfl (absurd rfl) fault hparentheses
  · exact Fault.stands_of_position? rfl _ _

/-! ### White space before a text -/

/-- Positions move with the text. -/
theorem checkParenthesesFrom_shift (n position depth lastOpen : Nat) (text : List Char) :
    ∀ lastOpen', (depth ≠ 0 → lastOpen' = lastOpen + n) →
      checkParenthesesFrom (position + n) depth lastOpen' text =
        (checkParenthesesFrom position depth lastOpen text).mapError (Fault.shift n) := by
  -- the place remembered moves along too, but only where a parenthesis is open has it been set
  fun_induction checkParenthesesFrom position depth lastOpen text with
  | case1 =>
    intro lastOpen' _
    rw [checkParenthesesFrom_closed]
    rfl
  | case2 position depth lastOpen hdepth =>
    intro lastOpen' hlast
    rw [checkParenthesesFrom_unclosed hdepth, hlast hdepth]
    rfl
  | case3 position depth lastOpen c rest hquote hnone =>
    intro lastOpen' _
    rw [checkParenthesesFrom_unterminated hquote hnone]
    rfl
  | case4 position depth lastOpen c rest next hquote t ht ih =>
    intro lastOpen' hlast
    rw [checkParenthesesFrom_quote hquote ht, ← ih lastOpen' hlast]
    simp only [next, Nat.add_right_comm]
  | case5 position depth lastOpen rest next hquote ih =>
    intro lastOpen' _
    rw [checkParenthesesFrom_open, ← ih (position + n) fun _ => rfl, Nat.add_right_comm]
  | case6 position lastOpen rest hquote hopen =>
    intro lastOpen' _
    rw [checkParenthesesFrom_unopened]
    rfl
  | case7 position depth lastOpen rest hdepth next hquote hopen ih =>
    intro lastOpen' hlast
    rw [checkParenthesesFrom_close hdepth, ← ih lastOpen' fun _ => hlast hdepth, Nat.add_right_comm]
  | case8 position depth lastOpen c rest next hquote hopen hclose ih =>
    intro lastOpen' hlast
    have hc : c ∉ delimiters := not_mem_delimiters_iff.mpr ⟨hquote, hopen, hclose⟩
    rw [checkParenthesesFrom_cons hc, ← ih lastOpen' hlast, Nat.add_right_comm]

/-- White space is gone over. -/
theorem checkParenthesesFrom_blanks {blanks : List Char} (hblanks : ∀ c ∈ blanks, Text.isBlank c = true)
    (position depth lastOpen : Nat) (text : List Char) :
    checkParenthesesFrom position depth lastOpen (blanks ++ text) =
      checkParenthesesFrom (position + Text.byteLength blanks) depth lastOpen text := by
  induction blanks generalizing position with
  | nil => rfl
  | cons c blanks ih =>
    obtain ⟨hc, hblanks⟩ := List.forall_mem_cons.mp hblanks
    rw [List.cons_append, checkParenthesesFrom_cons (not_mem_delimiters_of_isBlank hc), ih hblanks,
      Text.byteLength_cons, Nat.add_assoc]

theorem checkParentheses_blanks {blanks : List Char} (hblanks : ∀ c ∈ blanks, Text.isBlank c = true)
    (text : List Char) :
    checkParentheses (blanks ++ text) =
      (checkParentheses text).mapError (Fault.shift (Text.byteLength blanks)) := by
  rw [checkParentheses, checkParenthesesFrom_blanks hblanks]
  exact checkParenthesesFrom_shift _ 0 0 0 text 0 (absurd rfl)

/-! ### Tokens behind white space -/

theorem fold_of_isBlank {c : Char} (hc : Text.isBlank c = true) : fold c = c := by
  refine fold_eq_self (Bool.eq_false_iff.mpr fun halpha => ?_)
  have hword := isWordChar_of_isAlpha_fold halpha
  simp [Text.isWordChar_of_isBlank hc] at hword

/-- No forbidden token starts with white space. -/
theorem not_forbiddenAt_of_isBlank {c : Char} (hc : Text.isBlank c = true) (text : List Char) :
    forbiddenWordAt? (c :: text) = none ∧ forbiddenSequenceAt? (c :: text) = none := by
  constructor
  · rw [forbiddenWordAt?, List.takeWhile_cons_of_neg (by simp [Text.isWordChar_of_isBlank hc])]
    decide
  · refine forbiddenSequenceAt?_eq_none_iff.mpr fun part after htext hpart => ?_
    -- no forbidden sequence starts with white space, and folding leaves white space as it is
    have hsequences : ∀ s ∈ forbiddenSequences, s.head?.any (fun d => !Text.isBlank d) = true := by decide
    have hfirst := hsequences _ hpart
    cases part with
    | nil => contradiction
    | cons d part =>
      obtain ⟨rfl, -⟩ := List.cons.inj htext
      rw [List.map_cons, List.head?_cons, Option.any_some, fold_of_isBlank hc, hc] at hfirst
      contradiction

/-- What is found is at a later place. -/
def later (n : Nat) (found : Nat × List Char) : Nat × List Char := (found.1 + n, found.2)

theorem firstWord?_shift (n position : Nat) (inWord : Bool) (text : List Char) :
    firstWord? (position + n) inWord text = (firstWord? position inWord text).map (later n) := by
  induction text generalizing position inWord with
  | nil => rfl
  | cons c text ih =>
    rw [firstWord?, firstWord?]
    split
    · rfl
    · rw [← ih, Nat.add_right_comm]

theorem firstSequence?_shift (n position : Nat) (text : List Char) :
    firstSequence? (position + n) text = (firstSequence? position text).map (later n) := by
  induction text generalizing position with
  | nil => rfl
  | cons c text ih =>
    rw [firstSequence?, firstSequence?]
    split
    · rfl
    · rw [← ih, Nat.add_right_comm]

theorem earlier?_later (n : Nat) (a b : Option (Nat × List Char)) :
    earlier? (a.map (later n)) (b.map (later n)) = earlier? a b := by
  cases a <;> cases b <;> simp [earlier?, later]

theorem forbiddenToken?_blanks {blanks : List Char} (hblanks : ∀ c ∈ blanks, Text.isBlank c = true)
    (text : List Char) : forbiddenToken? (blanks ++ text) = forbiddenToken? text := by
  induction blanks with
  | nil => rfl
  | cons c blanks ih =>
    obtain ⟨hc, hblanks⟩ := List.forall_mem_cons.mp hblanks
    obtain ⟨hword, hsequence⟩ := not_forbiddenAt_of_isBlank hc (blanks ++ text)
    rw [← ih hblanks, List.cons_append, forbiddenToken?, forbiddenToken?, firstWord?, firstSequence?,
      if_neg (by simp), hword, hsequence, Text.isWordChar_of_isBlank hc]
    simp only [firstWord?_shift, firstSequence?_shift, earlier?_later]

/-! ### All checks -/

/-- **White space before a text** moves the positions that the screen tells, and changes nothing else. -/
theorem check_blanks {limits : Limits} {blanks text : List Char}
    (hblanks : ∀ c ∈ blanks, Text.isBlank c = true) (hlength : (blanks ++ text).length ≤ limits.maxLength) :
    check limits (blanks ++ text) =
      (check limits text).mapError (Fault.shift (Text.byteLength blanks)) := by
  have hall : Text.isAllBlank (blanks ++ text) = Text.isAllBlank text := by
    rw [Text.isAllBlank, List.all_append, List.all_eq_true.mpr hblanks, Bool.true_and, Text.isAllBlank]
  have hlength' : text.length ≤ limits.maxLength := by
    rw [List.length_append] at hlength
    omega
  -- each of the four checks has the same outcome, but for the positions of the third
  rw [check, check, hall, forbiddenToken?_blanks hblanks, checkParentheses_blanks hblanks,
    if_neg (Nat.not_lt.mpr hlength), if_neg (Nat.not_lt.mpr hlength')]
  split
  · rfl
  cases checkParentheses text with
  | error fault => rfl
  | ok _ =>
    cases forbiddenToken? text with
    | none => rfl
    | some token => rfl

end Formulary.Screen
