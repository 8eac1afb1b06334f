import Formulary.Expression.Screen
import Formulary.Proofs.Outcome
import Formulary.Proofs.Text.Classes
import Formulary.Proofs.Text.Spans

/-!
# Parentheses that pair up

`Balances text rest` says that the parentheses outside of quotes pair up in the front `text` of a text that
goes on with `rest`: the check that has come through `text` has as many open parentheses as before. Such
parts can be put one behind the other and into parentheses, and a quoted text is one whatever it holds. The
check of a text that is such a part as a whole succeeds (`Balances.check`).

Of what the check has gone through only the number of open parentheses matters for whether it succeeds
(`checkParenthesesFrom_eq_ok_congr`), so that parts without parentheses and quotes can be left out of a text.
-/

namespace Formulary.Screen

/-- The parentheses of the front `text` pair up when `rest` follows. -/
def Balances (text rest : List Char) : Prop :=
  ∀ position depth lastOpen, ∃ position' lastOpen',
    checkParenthesesFrom position depth lastOpen (text ++ rest) =
      checkParenthesesFrom position' depth lastOpen' rest

/-- The characters that the check looks for. -/
def delimiters : List Char := ['"', '\'', '(', ')']

theorem mem_delimiters_iff {c : Char} : c ∈ delimiters ↔ (c = '"' ∨ c = '\'') ∨ c = '(' ∨ c = ')' := by
  simp [delimiters, or_assoc]

theorem not_mem_delimiters_iff {c : Char} :
    c ∉ delimiters ↔ ¬(c = '"' ∨ c = '\'') ∧ c ≠ '(' ∧ c ≠ ')' := by
  rw [mem_delimiters_iff, not_or, @not_or (c = '(')]

/-- A character of a kind that the check does not look for. -/
theorem not_mem_delimiters {p : Char → Bool} (hp : ∀ d ∈ delimiters, p d = false) {c : Char}
    (h : p c = true) : c ∉ delimiters := by
  intro hc
  simp [hp c hc] at h

variable {text more rest : List Char}

/-! ### Steps of the check -/

section Steps

variable {c : Char} {position depth lastOpen : Nat}

theorem checkParenthesesFrom_closed : checkParenthesesFrom position 0 lastOpen [] = .ok () := by
  rw [checkParenthesesFrom, if_pos rfl]

theorem checkParenthesesFrom_unclosed (hdepth : depth ≠ 0) :
    checkParenthesesFrom position depth lastOpen [] = .error (.unbalancedParentheses lastOpen) := by
  rw [checkParenthesesFrom, if_neg hdepth]

theorem checkParenthesesFrom_unterminated (hc : c = '"' ∨ c = '\'') (h : Text.afterQuote? c text = none) :
    checkParenthesesFrom position depth lastOpen (c :: text) = .error (.unterminatedString position) := by
  rw [checkParenthesesFrom, if_pos hc, h]

/-- A quoted text is gone over as a whole. -/
theorem checkParenthesesFrom_quote (hc : c = '"' ∨ c = '\'') {t : Taken (List Char) text}
    (h : Text.afterQuote? c text = some t) :
    checkParenthesesFrom position depth lastOpen (c :: text) =
      checkParenthesesFrom (position + c.utf8Size + Text.byteLength t.consumed) depth lastOpen t.rest := by
  rw [checkParenthesesFrom, if_pos hc, h]

theorem checkParenthesesFrom_open :
    checkParenthesesFrom position depth lastOpen ('(' :: text) =
      checkParenthesesFrom (position + '('.utf8Size) (depth + 1) position text := by
  rw [checkParenthesesFrom, if_neg (by decide), if_pos rfl]

theorem checkParenthesesFrom_unopened :
    checkParenthesesFrom position 0 lastOpen (')' :: text) = .error (.unbalancedParentheses position) := by
  rw [checkParenthesesFrom, if_neg (by decide), if_neg (by decide), if_pos rfl, if_pos rfl]

theorem checkParenthesesFrom_close (hdepth : depth ≠ 0) :
    checkParenthesesFrom position depth lastOpen (')' :: text) =
      checkParenthesesFrom (position + ')'.utf8Size) (depth - 1) lastOpen text := by
  rw [checkParenthesesFrom, if_neg (by decide), if_neg (by decide), if_pos rfl, if_neg hdepth]

/-- Any other character is gone over. -/
theorem checkParenthesesFrom_cons (hc : c ∉ delimiters) :
    checkParenthesesFrom position depth lastOpen (c :: text) =
      checkParenthesesFrom (position + c.utf8Size) depth lastOpen text := by
  obtain ⟨hquote, hopen, hclose⟩ := not_mem_delimiters_iff.mp hc
  rw [checkParenthesesFrom, if_neg hquote, if_neg hopen, if_neg hclose]

end Steps

/-! ### Parts with their parentheses in pairs -/

theorem balances_nil (rest : List Char) : Balances [] rest :=
  fun position _ lastOpen => ⟨position, lastOpen, rfl⟩

theorem Balances.append (h : Balances text (more ++ rest)) (h' : Balances more rest) :
    Balances (text ++ more) rest := by
  intro position depth lastOpen
  obtain ⟨position', lastOpen', hcheck⟩ := h position depth lastOpen
  obtain ⟨position'', lastOpen'', hcheck'⟩ := h' position' depth lastOpen'
  exact ⟨position'', lastOpen'', by rw [List.append_assoc, hcheck, hcheck']⟩

/-- Nothing has to pair up where there is neither a parenthesis nor a quote. -/
theorem balances_of_forall (h : ∀ c ∈ text, c ∉ delimiters) (rest : List Char) :
    Balances text rest := by
  induction text with
  | nil => exact balances_nil rest
  | cons c text ih =>
    obtain ⟨hc, htext⟩ := List.forall_mem_cons.mp h
    intro position depth lastOpen
    obtain ⟨position', lastOpen', hcheck⟩ := ih htext (position + c.utf8Size) depth lastOpen
    exact ⟨position', lastOpen', by rw [List.cons_append, checkParenthesesFrom_cons hc, hcheck]⟩

/-- What stands between quotes does not count. -/
theorem balances_quote {q : Char} (hq : q = '"' ∨ q = '\'') (text : List Char)
    (hrest : rest.head? ≠ some q) : Balances (Text.quote q text) rest := by
  intro position depth lastOpen
  obtain ⟨t, ht, -, hleft⟩ := Text.exists_afterQuote?_doubled text hrest
  rw [Text.quote, List.cons_append, List.append_assoc, List.singleton_append,
    checkParenthesesFrom_quote hq ht, hleft]
  exact ⟨_, _, rfl⟩

theorem Balances.parentheses (h : Balances text (')' :: rest)) :
    Balances ('(' :: (text ++ [')'])) rest := by
  intro position depth lastOpen
  obtain ⟨position', lastOpen', hcheck⟩ := h (position + '('.utf8Size) (depth + 1) position
  refine ⟨position' + ')'.utf8Size, lastOpen', ?_⟩
  rw [List.cons_append, List.append_assoc, List.singleton_append, checkParenthesesFrom_open, hcheck,
    checkParenthesesFrom_close (Nat.add_one_ne_zero depth), Nat.add_sub_cancel]

/-- A whole text whose parentheses pair up passes the check. -/
theorem Balances.check (h : Balances text []) : checkParentheses text = .ok () := by
  obtain ⟨position, lastOpen, hcheck⟩ := h 0 0 0
  rw [List.append_nil] at hcheck
  rw [checkParentheses, hcheck, checkParenthesesFrom_closed]

/-- A text that passes the check behind some open parentheses closes these in a longer text as well, and leaves
open what is open outside of them. -/
theorem checkParenthesesFrom_append {position depth lastOpen : Nat}
    (h : checkParenthesesFrom position depth lastOpen text = .ok ())
    (hrest : ∀ c ∈ rest.head?, ¬(c = '"' ∨ c = '\'')) (outside position' lastOpen' : Nat) :
    ∃ position'' lastOpen'',
      checkParenthesesFrom position' (depth + outside) lastOpen' (text ++ rest) =
        checkParenthesesFrom position'' outside lastOpen'' rest := by
  -- along the check of the text alone; position and last opening differ in the longer text, so they are general
  fun_induction checkParenthesesFrom position depth lastOpen text generalizing position' lastOpen' with
  | case1 => exact ⟨position', lastOpen', by rw [List.nil_append, Nat.zero_add]⟩
  | case2 => contradiction
  | case3 => contradiction
  | case4 position depth lastOpen c left next hquote t ht ih =>
    -- no quote follows the text, so a quoted part at its end is closed where it was
    obtain ⟨t', ht', hextends⟩ := Text.exists_afterQuote?_append (fun hc => hrest c hc hquote) ht
    obtain ⟨position'', lastOpen'', hcheck⟩ :=
      ih h (position' + c.utf8Size + Text.byteLength t'.consumed) lastOpen'
    refine ⟨position'', lastOpen'', ?_⟩
    rw [List.cons_append, checkParenthesesFrom_quote hquote ht', hextends.rest]
    exact hcheck
  | case5 position depth lastOpen left next hquote ih =>
    obtain ⟨position'', lastOpen'', hcheck⟩ := ih h (position' + '('.utf8Size) position'
    refine ⟨position'', lastOpen'', ?_⟩
    rw [List.cons_append, checkParenthesesFrom_open, ← hcheck, Nat.add_right_comm]
  | case6 => contradiction
  | case7 position depth lastOpen left hdepth next hquote hopen ih =>
    obtain ⟨position'', lastOpen'', hcheck⟩ := ih h (position' + ')'.utf8Size) lastOpen'
    refine ⟨position'', lastOpen'', ?_⟩
    have houtside : depth + outside - 1 = depth - 1 + outside := by omega
    rw [List.cons_append, checkParenthesesFrom_close (by omega), houtside, ← hcheck]
  | case8 position depth lastOpen c left next hquote hopen hclose ih =>
    obtain ⟨position'', lastOpen'', hcheck⟩ := ih h (position' + c.utf8Size) lastOpen'
    refine ⟨position'', lastOpen'', ?_⟩
    have hc : c ∉ delimiters := not_mem_delimiters_iff.mpr ⟨hquote, hopen, hclose⟩
    rw [List.cons_append, checkParenthesesFrom_cons hc, ← hcheck]

/-- The parentheses of a text that passes the check pair up wherever it stands, unless a quote follows it. -/
theorem balances_of_check (h : checkParentheses text = .ok ())
    (hrest : ∀ c ∈ rest.head?, ¬(c = '"' ∨ c = '\'')) : Balances text rest := by
  intro position depth lastOpen
  obtain ⟨position', lastOpen', hcheck⟩ := checkParenthesesFrom_append h hrest depth position lastOpen
  exact ⟨position', lastOpen', by rwa [Nat.zero_add] at hcheck⟩

/-! ### What does not matter for the check -/

section

variable {position depth lastOpen : Nat}

/-- Where a text begins, and where a parenthesis was opened last, does not matter for whether parentheses pair up. -/
theorem checkParenthesesFrom_eq_ok_congr (position' lastOpen' : Nat) :
    checkParenthesesFrom position depth lastOpen text = .ok () ↔
      checkParenthesesFrom position' depth lastOpen' text = .ok () := by
  -- the text goes through from anywhere as it does from here, with nothing open outside
  have himp {position lastOpen : Nat} (position' lastOpen' : Nat)
      (h : checkParenthesesFrom position depth lastOpen text = .ok ()) :
      checkParenthesesFrom position' depth lastOpen' text = .ok () := by
    have hnone : ∀ c ∈ ([] : List Char).head?, ¬(c = '"' ∨ c = '\'') := by simp
    obtain ⟨_, _, hcheck⟩ := checkParenthesesFrom_append h hnone 0 position' lastOpen'
    rwa [List.append_nil, Nat.add_zero, checkParenthesesFrom_closed] at hcheck
  exact ⟨himp _ _, himp _ _⟩

/-- A front without parentheses and quotes does not matter either. -/
theorem checkParenthesesFrom_append_of_forall {front : List Char} (h : ∀ c ∈ front, c ∉ delimiters) :
    checkParenthesesFrom position depth lastOpen (front ++ text) = .ok () ↔
      checkParenthesesFrom position depth lastOpen text = .ok () := by
  obtain ⟨position', lastOpen', hcheck⟩ := balances_of_forall h text position depth lastOpen
  rw [hcheck]
  exact checkParenthesesFrom_eq_ok_congr _ _

/-- Neither does a rest without any. -/
theorem checkParenthesesFrom_of_append {rest : List Char} (hrest : ∀ c ∈ rest, c ∉ delimiters)
    (h : checkParenthesesFrom position depth lastOpen (text ++ rest) = .ok ()) :
    checkParenthesesFrom position depth lastOpen text = .ok () := by
  have hquotes {q : Char} (hq : q = '"' ∨ q = '\'') : q ∉ rest :=
    fun hmem => hrest q hmem (mem_delimiters_iff.mpr (Or.inl hq))
  fun_induction checkParenthesesFrom position depth lastOpen text with
  | case1 => rfl
  | case2 position depth lastOpen hdepth =>
    -- the text ends with a parenthesis open, and the rest closes none
    have hcheck : checkParenthesesFrom position depth lastOpen (rest ++ []) = .ok () ↔ _ :=
      checkParenthesesFrom_append_of_forall hrest
    rw [List.append_nil] at hcheck
    have hnil := hcheck.mp h
    rwa [checkParenthesesFrom_unclosed hdepth] at hnil
  | case3 position depth lastOpen c left hquote hnone =>
    rw [List.cons_append, checkParenthesesFrom_unterminated hquote
      (Text.afterQuote?_append_eq_none (hquotes hquote) hnone)] at h
    contradiction
  | case4 position depth lastOpen c left next hquote t ht ih =>
    have hhead : rest.head? ≠ some c := fun hc => hquotes hquote (List.mem_of_head? hc)
    obtain ⟨t', ht', hextends⟩ := Text.exists_afterQuote?_append hhead ht
    rw [List.cons_append, checkParenthesesFrom_quote hquote ht', hextends.rest, hextends.consumed] at h
    exact ih h
  | case5 position depth lastOpen left next hquote ih =>
    rw [List.cons_append, checkParenthesesFrom_open] at h
    exact ih h
  | case6 position lastOpen left hquote hopen =>
    rw [List.cons_append, checkParenthesesFrom_unopened] at h
    contradiction
  | case7 position depth lastOpen left hdepth next hquote hopen ih =>
    rw [List.cons_append, checkParenthesesFrom_close hdepth] at h
    exact ih h
  | case8 position depth lastOpen c left next hquote hopen hclose ih =>
    have hc : c ∉ delimiters := not_mem_delimiters_iff.mpr ⟨hquote, hopen, hclose⟩
    rw [List.cons_append, checkParenthesesFrom_cons hc] at h
    exact ih h

theorem not_mem_delimiters_of_isBlank {c : Char} (h : Text.isBlank c = true) : c ∉ delimiters :=
  not_mem_delimiters (Text.forall_mem_of_all (by decide)) h

/-- White space before a text has no parentheses and quotes. -/
theorem checkParenthesesFrom_dropWhile :
    checkParenthesesFrom position depth lastOpen text = .ok () ↔
      checkParenthesesFrom position depth lastOpen (text.dropWhile Text.isBlank) = .ok () := by
  have hblanks : ∀ c ∈ text.takeWhile Text.isBlank, c ∉ delimiters :=
    fun c hc => not_mem_delimiters_of_isBlank (List.mem_takeWhile_imp hc)
  have hcheck : checkParenthesesFrom position depth lastOpen
      (text.takeWhile Text.isBlank ++ text.dropWhile Text.isBlank) = .ok () ↔ _ :=
    checkParenthesesFrom_append_of_forall hblanks
  rwa [List.takeWhile_append_dropWhile] at hcheck

/-- What passes the check passes it without the white space around it. -/
theorem checkParentheses_trim (h : checkParentheses text = .ok ()) :
    checkParentheses (Text.trim text) = .ok () := by
  obtain ⟨after, hafter, hstart⟩ := Text.exists_trimStart text
  have hbehind : checkParentheses (Text.trim text ++ after) = .ok () := by
    rw [← hstart]
    exact checkParenthesesFrom_dropWhile.mp h
  exact checkParenthesesFrom_of_append (fun c hc => not_mem_delimiters_of_isBlank (hafter c hc)) hbehind

end

/-! ### What the check finds -/

/-- A parenthesis has no partner, or a quoted text is not closed. -/
def IsUnpaired (fault : Fault) : Prop :=
  (∃ position, fault = .unbalancedParentheses position) ∨
    ∃ position, fault = .unterminatedString position

theorem checkParenthesesFrom_failsWith (position depth lastOpen : Nat) (text : List Char) :
    FailsWith IsUnpaired (checkParenthesesFrom position depth lastOpen text) := by
  fun_induction checkParenthesesFrom position depth lastOpen text
  case case1 => exact .ok _
  case case2 => exact .error (Or.inl ⟨_, rfl⟩)
  case case3 => exact .error (Or.inr ⟨_, rfl⟩)
  case case6 => exact .error (Or.inl ⟨_, rfl⟩)
  case case4 ih | case5 ih | case7 ih | case8 ih => exact ih

/-- The check finds fault only with parentheses and quotes. -/
theorem checkParentheses_failsWith (text : List Char) : FailsWith IsUnpaired (checkParentheses text) :=
  checkParenthesesFrom_failsWith 0 0 0 text

end Formulary.Screen
