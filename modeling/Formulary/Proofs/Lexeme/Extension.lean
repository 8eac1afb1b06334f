import Formulary.Proofs.Lexeme.Writing

/-!
# Lexemes of a text that goes on

A text that is made of lexemes is made of the same ones when it is put into a longer text, as long as what
follows cannot go on with its last lexeme. White space cannot, and neither can a closing parenthesis: the rest
`Shuts` the text. Then the text gives its lexemes in front of the rest (`Lexemes.gives_of_finished`).

For one lexeme this is `Lexeme.read_append`, from what each of the readers looks at behind what it takes: a
symbol at one more character, a number at digits, a point or an exponent, a name at more of its characters and at
an opening parenthesis, a quoted text at another quote, and a bracketed list at nothing.
-/

namespace Formulary

/-! ### What may follow -/

/-- What may follow an expression as a whole: white space, a closing parenthesis, or nothing. -/
def Shuts (rest : List Char) : Prop := ∀ c ∈ rest.head?, Text.isBlank c = true ∨ c = ')'

namespace Shuts

theorem rightParen (rest : List Char) : Shuts (')' :: rest) := by simp [Shuts]

theorem blank {before rest : List Char} (hbefore : ∀ c ∈ before, Text.isBlank c = true) (h : Shuts rest) :
    Shuts (before ++ rest) := by
  cases before with
  | nil => exact h
  | cons c before => simp [Shuts, hbefore c List.mem_cons_self]

theorem of_blank {rest : List Char} (h : ∀ c ∈ rest, Text.isBlank c = true) : Shuts rest :=
  fun c hc => Or.inl (h c (List.mem_of_mem_head? hc))

variable {rest : List Char} (h : Shuts rest)
include h

/-- A property that neither white space nor a closing parenthesis has does not go on. -/
theorem eq_false {p : Char → Bool} (hblank : ∀ c, Text.isBlank c = true → p c = false)
    (hparen : p ')' = false) : ∀ c ∈ rest.head?, p c = false := by
  intro c hc
  rcases h c hc with hc | rfl
  · exact hblank c hc
  · exact hparen

theorem head?_ne {d : Char} (hblank : Text.isBlank d = false) (hparen : d ≠ ')') :
    rest.head? ≠ some d := by
  intro hd
  rcases h d hd with hd | rfl
  · simp [hd] at hblank
  · exact hparen rfl

/-- A text that a certain character does not follow has none behind it in a longer text. -/
theorem append_ne {d : Char} (hblank : Text.isBlank d = false) (hparen : d ≠ ')') {text : List Char}
    (htext : ∀ more, text = d :: more → False) : ∀ more, text ++ rest = d :: more → False := by
  intro more heq
  cases text with
  | nil => exact h.head?_ne hblank hparen (by rw [← List.nil_append rest, heq]; rfl)
  | cons c text =>
    obtain ⟨rfl, -⟩ := List.cons.inj heq
    exact htext text rfl

theorem isDigit : ∀ c ∈ rest.head?, c.isDigit = false :=
  h.eq_false (fun c hc => by
    rw [Bool.eq_false_iff]
    intro hdigit
    simp [Lexeme.isBlank_of_isDigit hdigit] at hc) rfl

theorem isNameChar : ∀ c ∈ rest.head?, Lexeme.isNameChar c = false :=
  h.eq_false (fun c hc => by
    rw [Bool.eq_false_iff]
    intro hname
    simp [Lexeme.isBlank_of_isNameChar hname] at hc) (by decide)

end Shuts

/-! ### The readers -/

namespace Lexeme

variable {position : Nat} {text rest : List Char} (hrest : Shuts rest)
include hrest

theorem symbol?_append {t : Taken Symbol text} (h : symbol? text = some t) :
    ∃ t', symbol? (text ++ rest) = some t' ∧ t.Extends t' := by
  have hequal {left : List Char} (hleft : ∀ more, left = '=' :: more → False) :
      ∀ more, left ++ rest = '=' :: more → False := hrest.append_ne (by decide) (by decide) hleft
  have hgreater {left : List Char} (hleft : ∀ more, left = '>' :: more → False) :
      ∀ more, left ++ rest = '>' :: more → False := hrest.append_ne (by decide) (by decide) hleft
  unfold symbol? at h
  split at h
  -- four symbols could go on with an equals sign or an angle behind them: what shuts a text starts with neither
  case h_10 hne hne' =>
    cases h
    exact ⟨_, symbol?.eq_10 _ (hequal hne) (hgreater hne'), rfl, rfl⟩
  case h_12 hne =>
    cases h
    exact ⟨_, symbol?.eq_12 _ (hequal hne), rfl, rfl⟩
  case h_14 hne =>
    cases h
    exact ⟨_, symbol?.eq_14 _ (hequal hne), rfl, rfl⟩
  case h_16 hne =>
    cases h
    exact ⟨_, symbol?.eq_16 _ (hequal hne), rfl, rfl⟩
  -- the other symbols are known by their own characters
  all_goals
    cases h
  all_goals
    exact ⟨_, rfl, rfl, rfl⟩

/-! #### Numbers -/

theorem fractionLength_of_shuts (text : List Char) :
    fractionLength (text ++ rest) = fractionLength text := by
  have hpoint := hrest.head?_ne (d := '.') (by decide) (by decide)
  cases text with
  | nil =>
    rw [List.nil_append, fractionLength.eq_2 rest fun more heq => hpoint (by rw [heq]; rfl)]
    rfl
  | cons c text =>
    by_cases hc : c = '.'
    · subst hc
      rw [List.cons_append, fractionLength, fractionLength, takeWhile_append_stop _ hrest.isDigit]
    · rw [List.cons_append, fractionLength.eq_2 _ fun _ heq => hc (List.cons.inj heq).1,
        fractionLength.eq_2 _ fun _ heq => hc (List.cons.inj heq).1]

theorem exponentLength_of_shuts (text : List Char) :
    exponentLength (text ++ rest) = exponentLength text := by
  have hne {d : Char} (hblank : Text.isBlank d = false) (hparen : d ≠ ')') :
      ∀ c ∈ rest.head?, c ≠ d := by
    rintro c hc rfl
    exact hrest.head?_ne hblank hparen hc
  -- an exponent may break off before its letter, its sign or its first digit; the rest has none of these
  cases text with
  | nil =>
    cases rest with
    | nil => rfl
    | cons c rest =>
      have hletter : ¬(c = 'e' ∨ c = 'E') :=
        not_or.mpr ⟨hne (by decide) (by decide) c rfl, hne (by decide) (by decide) c rfl⟩
      simp only [List.nil_append, exponentLength, if_neg hletter]
  | cons e text =>
    cases text with
    | cons c more =>
      simp only [List.cons_append, exponentLength, takeWhile_append_stop more hrest.isDigit]
      rw [← List.cons_append, takeWhile_append_stop (c :: more) hrest.isDigit]
    | nil =>
      cases rest with
      | nil => rfl
      | cons c rest =>
        have hsign : ¬(c = '+' ∨ c = '-') :=
          not_or.mpr ⟨hne (by decide) (by decide) c rfl, hne (by decide) (by decide) c rfl⟩
        have hdigit : ¬c.isDigit = true := by simp [hrest.isDigit c rfl]
        simp only [List.cons_append, List.nil_append, exponentLength, if_neg hsign, if_neg hdigit]

theorem startsNumber_of_shuts (c : Char) (text : List Char) :
    startsNumber (c :: (text ++ rest)) = startsNumber (c :: text) := by
  by_cases hc : c = '.'
  · subst hc
    cases text with
    | cons d text => rfl
    | nil =>
      cases rest with
      | nil => rfl
      | cons d rest => exact hrest.isDigit d rfl
  · rw [startsNumber.eq_2 _ _ fun _ _ heq _ => hc heq, startsNumber.eq_2 _ _ fun _ _ heq _ => hc heq]

omit hrest in
theorem fractionLength_le (text : List Char) : fractionLength text ≤ text.length := by
  unfold fractionLength
  split
  · next more =>
    have hdigits := (List.takeWhile_prefix Char.isDigit (l := more)).length_le
    simp only [List.length_cons]
    omega
  · exact Nat.zero_le _

omit hrest in
theorem exponentLength_le (text : List Char) : exponentLength text ≤ text.length := by
  unfold exponentLength
  split
  · next e more =>
    split
    · split
      · next c more =>
        -- a letter, perhaps a sign, and digits
        have hmore := (List.takeWhile_prefix Char.isDigit (l := more)).length_le
        have hall := (List.takeWhile_prefix Char.isDigit (l := c :: more)).length_le
        simp only [List.length_cons] at hall ⊢
        split
        · omega
        · split <;> omega
      · exact Nat.zero_le _
    · exact Nat.zero_le _
  · exact Nat.zero_le _

theorem number?_append {t : Taken Lexeme text} (h : number? position text = .ok (some t))
    (position' : Nat) :
    ∃ t', number? position' (text ++ rest) = .ok (some t') ∧ t.Extends t' := by
  -- none of the three parts of a numeral reaches into the rest
  have hwhole := takeWhile_append_stop text hrest.isDigit
  have hwholeLe : (text.takeWhile Char.isDigit).length ≤ text.length :=
    (List.takeWhile_prefix _).length_le
  have hfractionLe := fractionLength_le (text.drop (text.takeWhile Char.isDigit).length)
  rw [List.length_drop] at hfractionLe
  have hmantissaLe : (text.takeWhile Char.isDigit).length +
      fractionLength (text.drop (text.takeWhile Char.isDigit).length) ≤ text.length := by omega
  have hexponentLe := exponentLength_le (text.drop ((text.takeWhile Char.isDigit).length +
    fractionLength (text.drop (text.takeWhile Char.isDigit).length)))
  rw [List.length_drop] at hexponentLe
  simp only [number?] at h ⊢
  rw [hwhole, List.drop_append_of_le_length hwholeLe, fractionLength_of_shuts hrest,
    List.drop_append_of_le_length hmantissaLe, exponentLength_of_shuts hrest,
    List.take_append_of_le_length (by omega), List.drop_append_of_le_length (by omega)]
  split at h
  · contradiction
  · next n hread =>
    obtain ⟨t', ht', hextends⟩ := Taken.exists_of?_append (Except.ok.inj h) rest
    exact ⟨t', congrArg Except.ok ht', hextends⟩

/-! #### Names -/

theorem ofName_of_shuts (name left : List Char) : ofName name (left ++ rest) = ofName name left := by
  have hparen : rest.head? ≠ some '(' := hrest.head?_ne (by decide) (by decide)
  cases left with
  | nil => rw [List.nil_append, ofName, ofName, if_neg hparen, if_neg (by simp)]
  | cons c left => rfl

theorem name?_append {t : Taken Lexeme text} (h : name? text = some t) :
    ∃ t', name? (text ++ rest) = some t' ∧ t.Extends t' := by
  obtain ⟨t', ht', hextends⟩ := Taken.exists_of?_append h rest
  refine ⟨t', ?_, hextends⟩
  rw [name?, takeWhile_append_stop text hrest.isNameChar, dropWhile_append_stop text hrest.isNameChar,
    ofName_of_shuts hrest]
  exact ht'

theorem marked_append {t : Taken Lexeme ('$' :: text)} (h : marked position text = .ok t)
    (position' : Nat) :
    ∃ t' : Taken Lexeme ('$' :: text ++ rest), marked position' (text ++ rest) = .ok t' ∧ t.Extends t' := by
  have htake := takeWhile_append_stop text hrest.isNameChar
  have hdrop := dropWhile_append_stop text hrest.isNameChar
  rw [marked] at h
  split at h
  · contradiction
  · next hname =>
    obtain rfl := Except.ok.inj h
    refine ⟨_, by rw [marked, if_neg (by rwa [htake])], ?_, hdrop⟩
    exact congrArg (fun name => var (String.ofList name)) htake

/-! #### Bracketed lists -/

omit hrest in
theorem brackets?_append {state : BracketState} {nesting : Nat} {t : Taken Unit text}
    (h : brackets? state nesting text = some t) (rest : List Char) :
    ∃ t', brackets? state nesting (text ++ rest) = some t' ∧ t.Extends t' := by
  fun_induction brackets? state nesting text
  case case1 => contradiction
  case case6 nesting c left hquote hopen hclose hlast =>
    obtain rfl := Option.some.inj h
    refine ⟨⟨(), left ++ rest, by simp⟩, ?_, rfl, rfl⟩
    simp only [List.cons_append, brackets?, if_neg hquote, if_neg hopen, if_pos hclose, if_pos hlast]
  -- all else goes on behind one more character
  case case2 ih | case3 ih =>
    obtain ⟨t, ht, rfl⟩ := Option.map_eq_some_iff.mp h
    obtain ⟨t', ht', hextends⟩ := ih ht
    refine ⟨t'.widen (by simp), ?_, hextends.value, hextends.rest⟩
    simp only [List.cons_append, brackets?]
    exact congrArg (Option.map _) ht'
  all_goals
    rename_i ih
    obtain ⟨t, ht, rfl⟩ := Option.map_eq_some_iff.mp h
    obtain ⟨t', ht', hextends⟩ := ih ht
    refine ⟨t'.widen (by simp), ?_, hextends.value, hextends.rest⟩
    simp only [List.cons_append, brackets?, *, if_true, if_false, Option.map_some]

omit hrest in
theorem optionList_eq_ok {v : Value} (h : optionList position text = .ok v) (position' : Nat) :
    optionList position' text = .ok v := by
  rw [optionList] at h ⊢
  split at h
  · contradiction
  · split at h
    · exact h
    · contradiction

omit hrest in
theorem bracketed_append {t : Taken Lexeme text} (h : bracketed position text = .ok t)
    (position' : Nat) (rest : List Char) :
    ∃ t', bracketed position' (text ++ rest) = .ok t' ∧ t.Extends t' := by
  rw [bracketed] at h
  split at h
  · contradiction
  · next s hs =>
    obtain ⟨v, hv, rfl⟩ := map_eq_ok_iff.mp h
    obtain ⟨s', hs', hextends⟩ := brackets?_append hs rest
    refine ⟨s'.map fun _ => literal v, ?_, rfl, hextends.rest⟩
    rw [bracketed, hs']
    simp only [hextends.consumed, optionList_eq_ok hv position']
    rfl

/-! #### Any lexeme -/

omit hrest in
/-- What is no symbol and no half of one does not start with the character of a symbol. -/
theorem not_mem_symbolChars {c : Char} (h : symbol? text = none) (hc : c ∈ text.head?)
    (hhalf : ¬(c = '&' ∨ c = '|')) : c ∉ symbolChars := by
  have hchars : symbolChars = ['+', '-', '*', '/', ',', '(', ')', '<', '>', '=', '!', '&', '|'] := rfl
  obtain ⟨left, htext⟩ := List.head?_eq_some_iff.mp hc
  simp only [hchars, List.mem_cons, List.not_mem_nil, or_false]
  unfold symbol? at h
  split at h
  case h_19 hplus hminus hstar hslash hcomma hopen hclose _ _ hless _ hgreater _ hequal _ hbang _ _ =>
    rintro (rfl | rfl | rfl | rfl | rfl | rfl | rfl | rfl | rfl | rfl | rfl | hhalf')
    exacts [hplus _ htext, hminus _ htext, hstar _ htext, hslash _ htext, hcomma _ htext,
      hopen _ htext, hclose _ htext, hless _ htext, hgreater _ htext, hequal _ htext, hbang _ htext,
      hhalf hhalf']
  all_goals contradiction

/-- **A lexeme is read in front of what shuts a text** as it is read at the end of the text. -/
theorem read_append {t : Taken Lexeme text} (h : read position text = .ok (some t)) (position' : Nat) :
    ∃ t', read position' (text ++ rest) = .ok (some t') ∧ t.Extends t' := by
  -- the readers are tried in the same order for the longer text, and each test has the same outcome there
  unfold read at h
  split at h
  · cases h
  · obtain ⟨t, ht, heq⟩ := map_eq_ok_iff.mp h
    obtain rfl := Option.some.inj heq
    obtain ⟨t', ht', hextends⟩ := marked_append hrest ht position'
    exact ⟨t', congrArg (Except.map some) ht', hextends⟩
  next c left hvar =>
  have hread := read.eq_3 position' c (left ++ rest) hvar
  cases hsymbol : symbol? (c :: left) with
  | some s =>
    rw [hsymbol] at h
    obtain rfl := Option.some.inj (Except.ok.inj h)
    obtain ⟨s', hs', hextends⟩ := symbol?_append hrest hsymbol
    refine ⟨s'.map symbol, ?_, hextends.map symbol⟩
    change read position' (c :: (left ++ rest)) = _
    change symbol? (c :: (left ++ rest)) = _ at hs'
    rw [hread, hs']
  | none =>
    rw [hsymbol] at h
    simp only at h
    split at h
    · contradiction
    next hhalf =>
    -- a symbol is known by its first character, which is the same in the longer text
    have hsymbol' : symbol? (c :: (left ++ rest)) = none :=
      symbol?_eq_none (not_mem_symbolChars hsymbol rfl hhalf)
    rw [hsymbol'] at hread
    simp only [if_neg hhalf] at hread
    split at h
    · next hquote =>
      rw [if_pos hquote] at hread
      split at h
      · contradiction
      · next s hs =>
        obtain rfl := Option.some.inj (Except.ok.inj h)
        -- a quote behind the closing one would be a doubled quote, and the text would go on
        have hne : rest.head? ≠ some c := by
          rcases hquote with rfl | rfl
          · exact hrest.head?_ne (by decide) (by decide)
          · exact hrest.head?_ne (by decide) (by decide)
        obtain ⟨s', hs', hextends⟩ := Text.exists_afterQuote?_append hne hs
        rw [hs'] at hread
        exact ⟨_, hread, congrArg (fun s => literal (.string (String.ofList s))) hextends.value,
          hextends.rest⟩
    next hquote =>
    rw [if_neg hquote] at hread
    split at h
    · next hbracket =>
      rw [if_pos hbracket] at hread
      obtain ⟨t, ht, heq⟩ := map_eq_ok_iff.mp h
      obtain rfl := Option.some.inj heq
      obtain ⟨t', ht', hextends⟩ := bracketed_append ht position' rest
      exact ⟨t', hread.trans (congrArg (Except.map some) ht'), hextends⟩
    next hbracket =>
    rw [if_neg hbracket] at hread
    rw [startsNumber_of_shuts hrest] at hread
    split at h
    · next hnumber =>
      rw [if_pos hnumber] at hread
      obtain ⟨t', ht', hextends⟩ := number?_append hrest h position'
      exact ⟨t', hread.trans ht', hextends⟩
    next hnumber =>
    rw [if_neg hnumber] at hread
    split at h
    · next hname =>
      rw [if_pos hname] at hread
      obtain ⟨t', ht', hextends⟩ := name?_append hrest (Except.ok.inj h)
      exact ⟨t', hread.trans (congrArg Except.ok ht'), hextends⟩
    · cases h

end Lexeme

/-! ### Whole texts -/

namespace Lexemes

/-- Nothing but white space gives nothing. -/
theorem gives_blanks {text : List Char} (h : ∀ c ∈ text, Text.isBlank c = true) (rest : List Char) :
    Gives text rest [] := by
  induction text with
  | nil => exact gives_nil rest
  | cons c text ih =>
    obtain ⟨hc, htext⟩ := List.forall_mem_cons.mp h
    exact (gives_blank hc _).append (ih htext)

/-- What a lexeme is read from gives that lexeme when something follows that shuts the text. -/
theorem gives_of_read {position : Nat} {c : Char} {left written rest : List Char}
    {t : Taken Lexeme (c :: left)} (hread : Lexeme.read position (c :: left) = .ok (some t))
    (hc : Text.isBlank c = false) (hwritten : c :: left = written ++ t.rest) (hrest : Shuts rest) :
    Gives written (t.rest ++ rest) [t.value] := by
  intro position'
  obtain ⟨t', ht', hextends⟩ := Lexeme.read_append hrest hread position'
  refine ⟨[⟨t.value, position'⟩], position' + Text.byteLength t'.consumed, rfl, ?_⟩
  rw [← List.append_assoc, ← hwritten]
  change ofCharsFrom position' (c :: (left ++ rest)) = _
  change Lexeme.read position' (c :: (left ++ rest)) = _ at ht'
  rw [ofCharsFrom_cons hc, ht']
  simp only [hextends.value, hextends.rest]
  rfl

/-- **A text gives the lexemes that it is made of**, in front of whatever shuts it. -/
theorem gives_of_finished {position last : Nat} {text rest : List Char}
    (h : (ofCharsFrom position text).ending = .finished last) (hrest : Shuts rest) :
    Gives text rest ((ofCharsFrom position text).items.map Located.lexeme) := by
  fun_induction ofCharsFrom position text with
  | case1 position text start hblank =>
    exact gives_blanks (fun c hc => by simpa using List.dropWhile_eq_nil_iff.mp hblank c hc) rest
  | case2 => cases h
  | case3 => cases h
  | case4 position text start c left hleft t hread others ih =>
    -- white space first, then the lexeme, then what the induction says of the lexemes behind it
    have hc : Text.isBlank c = false := eq_false_of_mem_head?_dropWhile (by rw [hleft]; rfl)
    obtain ⟨written, hwritten, -⟩ := Lexeme.read_eq_ok hread
    have hlexemes := (gives_of_read hread hc hwritten hrest).append (ih h)
    have hblanks : Gives (text.takeWhile Text.isBlank) (c :: left ++ rest) [] :=
      gives_blanks (fun _ => List.mem_takeWhile_imp) _
    rw [← hwritten] at hlexemes
    have hall := hblanks.append hlexemes
    have htext : text.takeWhile Text.isBlank ++ c :: left = text := by
      rw [← hleft, List.takeWhile_append_dropWhile]
    rwa [htext] at hall

theorem gives_of_ofChars {last : Nat} {text rest : List Char} {items : List Located}
    (h : ofChars text = ⟨items, .finished last⟩) (hrest : Shuts rest) :
    Gives text rest (items.map Located.lexeme) := by
  rw [ofChars] at h
  have hgives := gives_of_finished (congrArg Lexemes.ending h) hrest
  rwa [h] at hgives

end Lexemes

end Formulary
