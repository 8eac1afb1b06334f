import Mathlib.Combinatorics.Enumerative.DyckWord
import Formulary.Proofs.Lexeme.Extension
import Formulary.Proofs.Screen.Parentheses

/-!
# Parentheses among lexemes

The check of parentheses and the reader of lexemes go through a text each by itself. They agree on what is quoted and
what is a parenthesis: if a text without brackets is made of lexemes, as far as its quotes are closed, it passes the
check exactly if they are all closed and the parentheses among the lexemes are a Dyck word
(`Screen.checkParentheses_eq_ok_iff`).

`Closes opened steps` says of parentheses behind `opened` open ones that they close all that are open and none besides;
behind none these are the Dyck words. A lexeme `Turns` so many open ones into so many. The check of a text that starts
with a lexeme goes on behind it with as many open ones as the lexeme turns them into
(`Screen.checkParenthesesFrom_of_read`), and the theorem follows along the lexemes.

Brackets are left out since an option list is one lexeme while the check goes through it, quotes, parentheses and all.
-/

namespace Formulary

/-! ### Parentheses behind open ones -/

/-- The parentheses close as many as are open, and never more. -/
structure Closes (opened : Nat) (steps : List DyckStep) : Prop where
  /-- In the end all are closed. -/
  total : opened + steps.count .U = steps.count .D
  /-- None is closed that is not open. -/
  front (i : Nat) : (steps.take i).count .D ≤ opened + (steps.take i).count .U

namespace Closes

variable {opened : Nat} {steps : List DyckStep}

theorem nil_iff : Closes opened [] ↔ opened = 0 :=
  ⟨fun h => by simpa using h.total, fun h => ⟨by simpa using h, by simp⟩⟩

theorem up_iff : Closes opened (.U :: steps) ↔ Closes (opened + 1) steps := by
  constructor
  · rintro ⟨htotal, hfront⟩
    refine ⟨by simp at htotal; omega, fun i => ?_⟩
    -- a front of what is left is one of the whole, longer by a step
    have hi := hfront (i + 1)
    simp at hi
    omega
  · rintro ⟨htotal, hfront⟩
    refine ⟨by simp; omega, fun i => ?_⟩
    cases i with
    | zero => simp
    | succ i =>
      have hi := hfront i
      simp
      omega

theorem down_iff : Closes opened (.D :: steps) ↔ ∃ opened', opened = opened' + 1 ∧ Closes opened' steps := by
  constructor
  · rintro ⟨htotal, hfront⟩
    -- the front of one step shows that a parenthesis is open
    have hone := hfront 1
    obtain ⟨opened', rfl⟩ : ∃ opened', opened = opened' + 1 := ⟨opened - 1, by simp at hone; omega⟩
    refine ⟨opened', rfl, by simp at htotal; omega, fun i => ?_⟩
    have hi := hfront (i + 1)
    simp at hi
    omega
  · rintro ⟨opened', rfl, htotal, hfront⟩
    refine ⟨by simp; omega, fun i => ?_⟩
    cases i with
    | zero => simp
    | succ i =>
      have hi := hfront i
      simp
      omega

/-- Behind no open parenthesis it takes a Dyck word. -/
theorem zero_iff : Closes 0 steps ↔ ∃ w : DyckWord, w.toList = steps := by
  constructor
  · rintro ⟨htotal, hfront⟩
    exact ⟨⟨steps, by omega, fun i => by have := hfront i; omega⟩, rfl⟩
  · rintro ⟨w, rfl⟩
    exact ⟨by have := w.count_U_eq_count_D; omega, fun i => by have := w.count_D_le_count_U i; omega⟩

end Closes

/-! ### Lexemes that are parentheses -/

namespace Lexeme

/-- The parenthesis that a lexeme is, if it is one. -/
def parenthesis? : Lexeme → Option DyckStep
  | symbol .leftParen => some .U
  | symbol .rightParen => some .D
  | _ => none

/-- Behind the lexeme `opened'` parentheses are open if `opened` are before it. -/
def Turns (t : Lexeme) (opened opened' : Nat) : Prop :=
  match t.parenthesis? with
  | some .U => opened' = opened + 1
  | some .D => opened = opened' + 1
  | none => opened' = opened

theorem turns_iff_of_none {t : Lexeme} {opened opened' : Nat} (h : t.parenthesis? = none) :
    t.Turns opened opened' ↔ opened' = opened := by
  unfold Turns
  rw [h]

theorem Turns.unique {t : Lexeme} {opened a b : Nat} (ha : t.Turns opened a) (hb : t.Turns opened b) :
    a = b := by
  unfold Turns at ha hb
  split at ha <;> simp_all

end Lexeme

/-- The parentheses among lexemes. -/
def Lexemes.parentheses (items : List Located) : List DyckStep :=
  items.filterMap fun item => item.lexeme.parenthesis?

theorem Closes.cons_iff {opened : Nat} {item : Located} {items : List Located} :
    Closes opened (Lexemes.parentheses (item :: items)) ↔
      ∃ opened', item.lexeme.Turns opened opened' ∧ Closes opened' (Lexemes.parentheses items) := by
  rw [Lexemes.parentheses, List.filterMap_cons]
  unfold Lexeme.Turns
  cases item.lexeme.parenthesis? with
  | none => simp [Lexemes.parentheses]
  | some step =>
    cases step with
    | U => simpa [Lexemes.parentheses] using Closes.up_iff
    | D => simpa [Lexemes.parentheses] using Closes.down_iff

/-- Behind a lexeme the parentheses close what is open there. -/
theorem Closes.behind {opened opened' : Nat} {item : Located} {items : List Located}
    (h : Closes opened (Lexemes.parentheses (item :: items))) (hturns : item.lexeme.Turns opened opened') :
    Closes opened' (Lexemes.parentheses items) := by
  obtain ⟨opened'', hturns', hcloses⟩ := Closes.cons_iff.mp h
  rwa [hturns.unique hturns']

/-! ### What one lexeme is read from -/

/-- Something in the text is no lexeme: half of an operator, a character that starts none, a number that is none, or
the mark of a variable without a name. -/
def SyntaxFault.isLexical : SyntaxFault → Bool
  | unsupportedOperator _ _ => true
  | unexpectedChar _ _ => true
  | invalidNumber _ _ => true
  | missingVariableName _ => true
  | _ => false

namespace Lexeme

variable {position : Nat} {text : List Char}

/-- What is read is no parenthesis, and neither a parenthesis nor a quote stands in what it is read from. -/
structure IsPlain (t : Taken Lexeme text) : Prop where
  parenthesis? : t.value.parenthesis? = none
  written : ∃ written, text = written ++ t.rest ∧ ∀ c ∈ written, c ∉ Screen.delimiters

/-- What is read is plain, or something is no lexeme. -/
abbrev EndsPlain (read : Except Fault (Option (Taken Lexeme text))) : Prop :=
  Ends (fun fault => ∃ cause, fault = .malformed cause ∧ cause.isLexical = true)
    (fun read => ∀ t ∈ read, IsPlain t) read

/-- A symbol that does not start like a parenthesis is plain. -/
theorem isPlain_of_symbol? (hc : ∀ c ∈ text.head?, c ∉ Screen.delimiters) {t : Taken Symbol text}
    (h : symbol? text = some t) : IsPlain (t.map symbol) := by
  unfold symbol? at h
  split at h
  case h_6 => exact absurd (by decide) (hc '(' rfl)
  case h_7 => exact absurd (by decide) (hc ')' rfl)
  all_goals
    cases h
  all_goals
    first
    | exact ⟨rfl, [_], rfl, Text.forall_mem_of_all (by decide)⟩
    | exact ⟨rfl, [_, _], rfl, Text.forall_mem_of_all (by decide)⟩

theorem forall_mem_takeWhile_isDigit (text : List Char) :
    ∀ c ∈ text.takeWhile Char.isDigit, c ∉ Screen.delimiters :=
  fun _ hc => Screen.not_mem_delimiters (Text.forall_mem_of_all (by decide)) (List.mem_takeWhile_imp hc)

theorem forall_mem_take_fraction (text : List Char) :
    ∀ c ∈ text.take (fractionLength text), c ∉ Screen.delimiters := by
  unfold fractionLength
  split
  · next more =>
    rw [Nat.add_comm, List.take_succ_cons, take_length_takeWhile]
    exact List.forall_mem_cons.mpr ⟨by decide, forall_mem_takeWhile_isDigit more⟩
  · simp

theorem forall_mem_take_exponent (text : List Char) :
    ∀ c ∈ text.take (exponentLength text), c ∉ Screen.delimiters := by
  unfold exponentLength
  split
  · next e rest =>
    split
    · next he =>
      -- the letter, the sign if there is one, and digits: none is a parenthesis or a quote
      have he' : e ∉ Screen.delimiters := by rcases he with rfl | rfl <;> decide
      split
      · next c more =>
        split
        · next hsign =>
          have hsign' : c ∉ Screen.delimiters := by rcases hsign with rfl | rfl <;> decide
          rw [Nat.add_comm, List.take_succ_cons, List.take_succ_cons, take_length_takeWhile]
          exact List.forall_mem_cons.mpr ⟨he', List.forall_mem_cons.mpr
            ⟨hsign', forall_mem_takeWhile_isDigit more⟩⟩
        · split
          · rw [Nat.add_comm, List.take_succ_cons, take_length_takeWhile]
            exact List.forall_mem_cons.mpr ⟨he', forall_mem_takeWhile_isDigit (c :: more)⟩
          · simp
      · simp
    · simp
  · simp

theorem number?_ends (position : Nat) (text : List Char) : EndsPlain (number? position text) := by
  unfold number?
  dsimp only
  split
  · exact .error ⟨_, rfl, rfl⟩
  · refine .ok fun t ht => ?_
    obtain ⟨hvalue, hrest⟩ := Taken.of?_eq_some ht
    refine ⟨by rw [hvalue]; rfl, _, by rw [hrest, List.take_append_drop], ?_⟩
    -- the three parts of a numeral
    rw [List.take_add, List.take_add, take_length_takeWhile]
    exact List.forall_mem_append.mpr ⟨List.forall_mem_append.mpr
      ⟨forall_mem_takeWhile_isDigit text, forall_mem_take_fraction _⟩, forall_mem_take_exponent _⟩

theorem forall_mem_takeWhile_isNameChar (text : List Char) :
    ∀ c ∈ text.takeWhile isNameChar, c ∉ Screen.delimiters :=
  fun _ hc => Screen.not_mem_delimiters (Text.forall_mem_of_all (by decide)) (List.mem_takeWhile_imp hc)

theorem isPlain_of_name? {t : Taken Lexeme text} (h : name? text = some t) : IsPlain t := by
  obtain ⟨hvalue, hrest⟩ := Taken.of?_eq_some h
  refine ⟨?_, _, by rw [hrest, List.takeWhile_append_dropWhile], forall_mem_takeWhile_isNameChar text⟩
  rw [hvalue]
  rcases ofName_cases (text.takeWhile isNameChar) (text.dropWhile isNameChar) with hname | ⟨v, hliteral⟩
  · rw [hname]
    rfl
  · rw [hliteral]
    rfl

theorem marked_ends (position : Nat) (rest : List Char) :
    @EndsPlain ('$' :: rest) ((marked position rest).map some) := by
  rw [marked]
  split
  · exact .error ⟨_, rfl, rfl⟩
  · refine .ok fun t ht => ?_
    obtain rfl := Option.some.inj ht
    refine ⟨rfl, '$' :: rest.takeWhile isNameChar, ?_, List.forall_mem_cons.mpr
      ⟨by decide, forall_mem_takeWhile_isNameChar rest⟩⟩
    rw [List.cons_append, List.takeWhile_append_dropWhile]

/-- **What starts with neither a parenthesis nor a quote nor a bracket** holds no parenthesis and no quote. -/
theorem read_ends (hc : ∀ c ∈ text.head?, c ∉ Screen.delimiters) (hbracket : ∀ c ∈ text.head?, c ≠ '[')
    (position : Nat) : EndsPlain (read position text) := by
  unfold read
  split
  · exact .ok fun t ht => nomatch ht
  · exact marked_ends _ _
  · next c rest _ =>
    -- the tests in the order of the reader; quotes and lists are excluded by the first character
    split
    · next t ht =>
      refine .ok fun t' ht' => ?_
      obtain rfl := Option.some.inj ht'
      exact isPlain_of_symbol? hc ht
    split
    · exact .error ⟨_, rfl, rfl⟩
    split
    · next hquote => exact absurd (Screen.mem_delimiters_iff.mpr (Or.inl hquote)) (hc c rfl)
    split
    · next h => exact absurd h (hbracket c rfl)
    split
    · exact number?_ends _ _
    split
    · exact .ok fun t ht => isPlain_of_name? ht
    · exact .ok fun t ht => nomatch ht

/-- A quoted text is read as the check of parentheses goes over it. -/
theorem read_quote {c : Char} (hc : c = '"' ∨ c = '\'') (position : Nat) (rest : List Char) :
    read position (c :: rest) =
      match Text.afterQuote? c rest with
      | none => .error (.unterminatedString position)
      | some t => .ok (some ((t.map fun s => .literal (.string (String.ofList s))).widen (by simp))) := by
  rcases hc with rfl | rfl <;> rfl

end Lexeme

/-! ### The check along the lexemes -/

namespace Screen

variable {text : List Char}

/-- **The check goes on behind a lexeme** with as many open parentheses as the lexeme turns those before it into. -/
theorem checkParenthesesFrom_of_read {start position depth lastOpen : Nat} {c : Char} {left : List Char}
    {t : Taken Lexeme (c :: left)} (h : Lexeme.read start (c :: left) = .ok (some t)) (hbracket : c ≠ '[') :
    checkParenthesesFrom position depth lastOpen (c :: left) = .ok () ↔
      ∃ depth', t.value.Turns depth depth' ∧ checkParenthesesFrom position depth' lastOpen t.rest = .ok () := by
  by_cases hc : c ∈ delimiters
  · rcases mem_delimiters_iff.mp hc with hquote | rfl | rfl
    · -- a quoted text ends for both where it ends for one
      rw [Lexeme.read_quote hquote] at h
      cases hs : Text.afterQuote? c left with
      | none =>
        rw [hs] at h
        contradiction
      | some s =>
        rw [hs] at h
        obtain rfl := Option.some.inj (Except.ok.inj h)
        rw [checkParenthesesFrom_quote hquote hs]
        simpa [Lexeme.Turns, Lexeme.parenthesis?] using checkParenthesesFrom_eq_ok_congr _ _
    · obtain rfl := Option.some.inj (Except.ok.inj h)
      rw [checkParenthesesFrom_open]
      simpa [Lexeme.Turns, Lexeme.parenthesis?] using checkParenthesesFrom_eq_ok_congr _ _
    · obtain rfl := Option.some.inj (Except.ok.inj h)
      cases depth with
      -- a parenthesis that closes nothing is refused by the check, and turns no number of open ones into another
      | zero => simp [checkParenthesesFrom_unopened, Lexeme.Turns, Lexeme.parenthesis?]
      | succ depth =>
        rw [checkParenthesesFrom_close (Nat.add_one_ne_zero depth)]
        simpa [Lexeme.Turns, Lexeme.parenthesis?] using checkParenthesesFrom_eq_ok_congr _ _
  · -- any other lexeme is written without what the check looks for
    have hends : Lexeme.EndsPlain (Lexeme.read start (c :: left)) :=
      Lexeme.read_ends (by simpa using hc) (by simpa using hbracket) start
    obtain ⟨hvalue, written, htext, hwritten⟩ := hends.yields _ h t rfl
    have hcheck : checkParenthesesFrom position depth lastOpen (written ++ t.rest) = .ok () ↔ _ :=
      checkParenthesesFrom_append_of_forall hwritten
    rw [← htext] at hcheck
    simpa [Lexeme.turns_iff_of_none hvalue] using hcheck

/-- What starts with no lexeme starts with something that is none, or with a quote that is not closed. -/
theorem checkParenthesesFrom_of_read_error {start : Nat} {c : Char} {left : List Char} {fault : Fault}
    (h : Lexeme.read start (c :: left) = .error fault) (hbracket : c ≠ '[') :
    (∃ cause, fault = .malformed cause ∧ cause.isLexical = true) ∨
      (∃ p, fault = .unterminatedString p) ∧
        ∀ position depth lastOpen, checkParenthesesFrom position depth lastOpen (c :: left) ≠ .ok () := by
  by_cases hc : c ∈ delimiters
  · rcases mem_delimiters_iff.mp hc with hquote | rfl | rfl
    · -- parentheses are lexemes; of what the check looks for, only a quote can start with none
      rw [Lexeme.read_quote hquote] at h
      split at h
      · next hnone =>
        refine Or.inr ⟨⟨start, (Except.error.inj h).symm⟩, fun position depth lastOpen => ?_⟩
        rw [checkParenthesesFrom_unterminated hquote hnone]
        simp
      · contradiction
    · contradiction
    · contradiction
  · have hends : Lexeme.EndsPlain (Lexeme.read start (c :: left)) :=
      Lexeme.read_ends (by simpa using hc) (by simpa using hbracket) start
    exact Or.inl (hends.fails fault h)

/-! ### Whole texts -/

section

variable {start : Nat}

/-- There is no bracket behind white space and behind a lexeme either. -/
theorem not_mem_behind {c : Char} {left : List Char} (hbracket : '[' ∉ text)
    (hleft : text.dropWhile Text.isBlank = c :: left) :
    c ≠ '[' ∧ ∀ {start t}, Lexeme.read start (c :: left) = .ok (some t) → '[' ∉ t.rest := by
  have hnone : '[' ∉ c :: left := fun hmem => hbracket ((List.dropWhile_sublist _).mem (hleft ▸ hmem))
  refine ⟨(List.ne_of_not_mem_cons hnone).symm, fun hread hmem => hnone ?_⟩
  obtain ⟨written, hwritten, -⟩ := Lexeme.read_eq_ok hread
  rw [hwritten]
  exact List.mem_append_right _ hmem

/-- If the lexemes come to the end of a text, it passes the check behind open parentheses exactly if those among the
lexemes close what is open. -/
theorem checkParenthesesFrom_eq_ok_iff_closes (hbracket : '[' ∉ text) {position lastOpen last : Nat}
    (hending : (Lexemes.ofCharsFrom start text).ending = .finished last) (depth : Nat) :
    checkParenthesesFrom position depth lastOpen text = .ok () ↔
      Closes depth (Lexemes.parentheses (Lexemes.ofCharsFrom start text).items) := by
  -- along the lexemes, with any number of open parentheses before each
  revert depth
  fun_induction Lexemes.ofCharsFrom start text with
  | case1 start text first hnone =>
    intro depth
    rw [checkParenthesesFrom_dropWhile, hnone, checkParenthesesFrom, Lexemes.parentheses, List.filterMap_nil,
      Closes.nil_iff]
    simp
  | case2 => contradiction
  | case3 => contradiction
  | case4 start text first c left hleft t hread others ih =>
    intro depth
    obtain ⟨hc, hrest⟩ := not_mem_behind hbracket hleft
    rw [checkParenthesesFrom_dropWhile, hleft, checkParenthesesFrom_of_read hread hc, Closes.cons_iff]
    exact exists_congr fun depth' => and_congr_right fun _ => ih (hrest hread) hending depth'

/-- If they do not, something is no lexeme, or a quote is not closed and the text does not pass the check. -/
theorem checkParenthesesFrom_of_faulty (hbracket : '[' ∉ text) {fault : Fault}
    (hending : (Lexemes.ofCharsFrom start text).ending = .faulty fault) :
    (∃ cause, fault = .malformed cause ∧ cause.isLexical = true) ∨
      (∃ p, fault = .unterminatedString p) ∧
        ∀ position depth lastOpen, checkParenthesesFrom position depth lastOpen text ≠ .ok () := by
  fun_induction Lexemes.ofCharsFrom start text with
  | case1 => contradiction
  | case2 start text first c left hleft fault' hread =>
    obtain rfl := Ending.faulty.inj hending
    obtain ⟨hc, -⟩ := not_mem_behind hbracket hleft
    refine (checkParenthesesFrom_of_read_error hread hc).imp_right
      (And.imp_right fun hcheck position depth lastOpen => ?_)
    rw [ne_eq, checkParenthesesFrom_dropWhile, hleft]
    exact hcheck position depth lastOpen
  | case3 =>
    -- a character that starts no lexeme
    obtain rfl := Ending.faulty.inj hending
    exact Or.inl ⟨_, rfl, rfl⟩
  | case4 start text first c left hleft t hread others ih =>
    obtain ⟨hc, hrest⟩ := not_mem_behind hbracket hleft
    -- the fault is in the rest, and the check goes on to the rest with some number of open parentheses
    refine (ih (hrest hread) hending).imp_right (And.imp_right fun hcheck position depth lastOpen => ?_)
    rw [ne_eq, checkParenthesesFrom_dropWhile, hleft, checkParenthesesFrom_of_read hread hc]
    rintro ⟨depth', -, hbehind⟩
    exact hcheck position depth' lastOpen hbehind

end

/-- **A text passes the check** if its quotes are closed and the parentheses among its lexemes are a Dyck word, and only
then, unless something in it is no lexeme. -/
theorem checkParentheses_eq_ok_iff (hbracket : '[' ∉ text)
    (hlexical : ∀ cause, (Lexemes.ofChars text).ending = .faulty (.malformed cause) → cause.isLexical = false) :
    checkParentheses text = .ok () ↔
      (∀ position, (Lexemes.ofChars text).ending ≠ .faulty (.unterminatedString position)) ∧
        ∃ w : DyckWord, w.toList = Lexemes.parentheses (Lexemes.ofChars text).items := by
  cases hending : (Lexemes.ofChars text).ending with
  | finished last =>
    rw [checkParentheses, checkParenthesesFrom_eq_ok_iff_closes hbracket hending, Closes.zero_iff]
    simp [Lexemes.ofChars]
  | faulty fault =>
    rcases checkParenthesesFrom_of_faulty hbracket hending with ⟨cause, rfl, hcause⟩ | ⟨⟨p, rfl⟩, hcheck⟩
    · -- something is no lexeme, which is left out here
      simp [hlexical cause hending] at hcause
    · exact iff_of_false (hcheck 0 0 0) fun h => h.1 p rfl

end Screen

end Formulary
