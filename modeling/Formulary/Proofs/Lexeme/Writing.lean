import Formulary.Proofs.Decimal.Notation
import Formulary.Proofs.Lexeme.Reading

/-!
# Lexemes are read as they are written

`Lexemes.Gives` says that the front of a text is read as certain lexemes, whatever the position, when a
certain rest follows. Such parts can be put one behind the other (`Gives.append`), and each kind of lexeme
that call syntax needs is one: numbers, quoted texts, keywords, names and variables, and symbols.

The rest matters. A number goes on with a digit, a point or an exponent, a quoted text with another quote and
a name with more of its characters, and before a parenthesis a keyword is a name. Behind an operand of call
syntax stands nothing of that kind: the rest `Delimits` it.
-/

namespace Formulary

open Lexeme

/-! ### Texts that give lexemes -/

namespace Lexemes

/-- The front `text` is read as the lexemes `ts` when `rest` follows. -/
def Gives (text rest : List Char) (ts : List Lexeme) : Prop :=
  ∀ position, ∃ items next, items.map Located.lexeme = ts ∧
    ofCharsFrom position (text ++ rest) =
      ⟨items ++ (ofCharsFrom next rest).items, (ofCharsFrom next rest).ending⟩

variable {text more rest : List Char} {ts us : List Lexeme}

theorem gives_nil (rest : List Char) : Gives [] rest [] := fun position => ⟨[], position, rfl, rfl⟩

theorem Gives.append (h : Gives text (more ++ rest) ts) (h' : Gives more rest us) :
    Gives (text ++ more) rest (ts ++ us) := by
  intro position
  obtain ⟨items, next, rfl, hread⟩ := h position
  obtain ⟨items', next', rfl, hread'⟩ := h' next
  refine ⟨items ++ items', next', List.map_append, ?_⟩
  rw [List.append_assoc, hread, hread', List.append_assoc]

/-- White space gives nothing. -/
theorem gives_blank {c : Char} (hc : Text.isBlank c = true) (rest : List Char) : Gives [c] rest [] := by
  intro position
  exact ⟨[], position + c.utf8Size, rfl, ofCharsFrom_blank hc⟩

/-- What a lexeme is read from gives that lexeme. -/
theorem gives_single {c : Char} {t : Lexeme} (hc : Text.isBlank c = false)
    (hread : ∀ position, ∃ taken, Lexeme.read position (c :: (text ++ rest)) = .ok (some taken) ∧
      taken.value = t ∧ taken.rest = rest) : Gives (c :: text) rest [t] := by
  intro position
  obtain ⟨taken, htaken, rfl, hrest⟩ := hread position
  refine ⟨[⟨taken.value, position⟩], position + Text.byteLength taken.consumed, rfl, ?_⟩
  rw [List.cons_append, ofCharsFrom_cons hc, htaken]
  simp only [hrest]
  rfl

/-- A whole text that gives lexemes is made of them. -/
theorem Gives.ofChars (h : Gives text [] ts) :
    ∃ items position, Lexemes.ofChars text = ⟨items, .finished position⟩ ∧
      items.map Located.lexeme = ts := by
  obtain ⟨items, next, hitems, hread⟩ := h 0
  refine ⟨items, next, ?_, hitems⟩
  rw [List.append_nil, ofCharsFrom_nil, List.append_nil] at hread
  exact hread

/-! ### What may follow -/

/-- What may follow an operand of call syntax: a comma, a closing parenthesis, or nothing. -/
def Delimits (rest : List Char) : Prop := ∀ c ∈ rest.head?, c = ',' ∨ c = ')'

namespace Delimits

/-- A property that neither a comma nor a closing parenthesis has does not go on behind an operand. -/
theorem eq_false {rest : List Char} {p : Char → Bool} (h : Delimits rest) (hcomma : p ',' = false)
    (hparen : p ')' = false) : ∀ c ∈ rest.head?, p c = false := by
  intro c hc
  rcases h c hc with rfl | rfl
  · exact hcomma
  · exact hparen

theorem head?_ne {rest : List Char} {c : Char} (h : Delimits rest) (hcomma : c ≠ ',')
    (hparen : c ≠ ')') : rest.head? ≠ some c :=
  fun hc => (h c hc).elim hcomma hparen

end Delimits

theorem delimits_nil : Delimits [] := by simp [Delimits]

theorem delimits_comma (rest : List Char) : Delimits (',' :: rest) := by simp [Delimits]

theorem delimits_rightParen (rest : List Char) : Delimits (')' :: rest) := by simp [Delimits]

/-! ### Symbols -/

theorem gives_comma (rest : List Char) : Gives [','] rest [.symbol .comma] :=
  gives_single (by decide) fun _ => ⟨_, rfl, rfl, rfl⟩

theorem gives_leftParen (rest : List Char) : Gives ['('] rest [.symbol .leftParen] :=
  gives_single (by decide) fun _ => ⟨_, rfl, rfl, rfl⟩

theorem gives_rightParen (rest : List Char) : Gives [')'] rest [.symbol .rightParen] :=
  gives_single (by decide) fun _ => ⟨_, rfl, rfl, rfl⟩

end Lexemes

/-! ### Names -/

namespace Lexeme

theorem isBlank_of_isNameChar {c : Char} (h : isNameChar c = true) : Text.isBlank c = false := by
  rw [Bool.eq_false_iff]
  intro hblank
  rw [isNameChar, Text.isAlphanumeric_of_isBlank hblank, Bool.false_or, Bool.or_eq_true, beq_iff_eq,
    beq_iff_eq] at h
  rcases h with rfl | rfl
  · exact absurd hblank (by decide)
  · exact absurd hblank (by decide)

theorem isBlank_of_isDigit {c : Char} (h : c.isDigit = true) : Text.isBlank c = false := by
  have hmarks : ∀ d ∈ marks, Text.isBlank d = false := Text.forall_mem_of_all (by decide)
  exact hmarks c (mem_marks_of_isDigit h)

theorem isNameChar_of_startsName {c : Char} (h : startsName c = true) : isNameChar c = true := by
  rw [startsName, Bool.or_eq_true] at h
  rw [isNameChar, Text.isAlphanumeric]
  rcases h with h | h
  · rw [h, Bool.true_or, Bool.true_or, Bool.true_or]
  · rw [h, Bool.or_true, Bool.true_or]

theorem isNameChar_of_delimits {rest : List Char} (h : Lexemes.Delimits rest) :
    ∀ c ∈ rest.head?, isNameChar c = false :=
  h.eq_false (by decide) (by decide)

theorem read_of_startsName {position : Nat} {c : Char} {rest : List Char} (h : startsName c = true) :
    read position (c :: rest) = .ok (name? (c :: rest)) := by
  have hc : c ∉ marks := by
    intro hmem
    have hmarks : ∀ d ∈ marks, startsName d = false := Text.forall_mem_of_all (by decide)
    exact absurd h (by simp [hmarks c hmem])
  rw [read_of_not_mem_marks hc, if_pos h]

/-- A text that starts with a digit starts with a number. -/
theorem read_of_isDigit {position : Nat} {c : Char} {rest : List Char} (h : c.isDigit = true) :
    read position (c :: rest) = number? position (c :: rest) := by
  -- a digit is no symbol and no mark, so no test before that for numbers applies
  have hne : ∀ d ∈ symbolChars ++ ['$', '"', '\'', '[', '.'], c ≠ d := by
    have hdigits : ∀ d ∈ symbolChars ++ ['$', '"', '\'', '[', '.'], d.isDigit = false :=
      Text.forall_mem_of_all (by decide)
    rintro d hd rfl
    exact absurd h (by simp [hdigits c hd])
  have hnumber : startsNumber (c :: rest) = true := by
    rwa [startsNumber.eq_2 _ _ fun _ _ heq _ => hne '.' (by decide) heq]
  rw [read_of_not_mem, if_pos hnumber]
  · exact fun hmem => hne c (List.mem_append_left _ hmem) rfl
  · simp [hne '$' (by decide), hne '"' (by decide), hne '\'' (by decide), hne '[' (by decide)]

/-- A name is read as far as it goes. -/
theorem exists_read_name {c : Char} {name rest : List Char} (hc : startsName c = true)
    (hname : ∀ d ∈ name, isNameChar d = true) (hrest : ∀ d ∈ rest.head?, isNameChar d = false)
    (position : Nat) :
    ∃ t, read position (c :: (name ++ rest)) = .ok (some t) ∧ t.value = ofName (c :: name) rest ∧
      t.rest = rest := by
  have hall : ∀ d ∈ c :: name, isNameChar d = true :=
    List.forall_mem_cons.mpr ⟨isNameChar_of_startsName hc, hname⟩
  have htake := takeWhile_append_eq hall hrest
  have hdrop := dropWhile_append_eq hall hrest
  rw [List.cons_append] at htake hdrop
  rw [read_of_startsName hc, name?, htake, hdrop, Taken.of?,
    dif_pos (by rw [List.length_cons, List.length_append]; omega)]
  exact ⟨_, rfl, rfl, rfl⟩

/-- A marked name is read as far as it goes. -/
theorem exists_read_var {name rest : List Char} (hne : name ≠ [])
    (hname : ∀ d ∈ name, isNameChar d = true) (hrest : ∀ d ∈ rest.head?, isNameChar d = false)
    (position : Nat) :
    ∃ t, read position ('$' :: (name ++ rest)) = .ok (some t) ∧ t.value = .var (String.ofList name) ∧
      t.rest = rest := by
  have htake := takeWhile_append_eq hname hrest
  have hdrop := dropWhile_append_eq hname hrest
  have hread : read position ('$' :: (name ++ rest)) = (marked position (name ++ rest)).map some := rfl
  have hempty : ¬((name ++ rest).takeWhile isNameChar).isEmpty = true := by
    rw [htake]
    simpa using hne
  rw [hread, marked, if_neg hempty]
  exact ⟨_, rfl, congrArg (fun l => var (String.ofList l)) htake, hdrop⟩

end Lexeme

namespace Lexemes

variable {rest : List Char}

theorem gives_var {name : List Char} (hne : name ≠ []) (hname : ∀ c ∈ name, isNameChar c = true)
    (hrest : Delimits rest) : Gives ('$' :: name) rest [.var (String.ofList name)] :=
  gives_single (by decide) (exists_read_var hne hname (isNameChar_of_delimits hrest))

/-- Before a parenthesis every name is a name. -/
theorem gives_name {c : Char} {name : List Char} (hc : startsName c = true)
    (hname : ∀ d ∈ name, isNameChar d = true) (more : List Char) :
    Gives (c :: name) ('(' :: more) [.name (String.ofList (c :: name))] := by
  refine gives_single (isBlank_of_isNameChar (isNameChar_of_startsName hc)) fun position => ?_
  have hrest : ∀ d ∈ ('(' :: more).head?, isNameChar d = false := by
    rintro d hd
    obtain rfl := Option.some.inj hd
    decide
  exact exists_read_name hc hname hrest position

/-- Elsewhere a keyword is the value that it stands for. -/
theorem gives_keyword {c : Char} {name : List Char} {v : Value} (hc : startsName c = true)
    (hname : ∀ d ∈ name, isNameChar d = true) (hkeyword : keyword? (c :: name) = some v)
    (hrest : Delimits rest) : Gives (c :: name) rest [.literal v] := by
  refine gives_single (isBlank_of_isNameChar (isNameChar_of_startsName hc)) fun position => ?_
  obtain ⟨t, hread, hvalue, hleft⟩ :=
    exists_read_name hc hname (isNameChar_of_delimits hrest) position
  refine ⟨t, hread, ?_, hleft⟩
  rw [hvalue, ofName, if_neg (hrest.head?_ne (by decide) (by decide)), hkeyword]
  rfl

/-! ### Quoted texts -/

theorem gives_quoted (text : List Char) (hrest : Delimits rest) :
    Gives (Text.quote '\'' text) rest [.literal (.string (String.ofList text))] := by
  refine gives_single (by decide) fun position => ?_
  have hquote : rest.head? ≠ some '\'' := hrest.head?_ne (by decide) (by decide)
  obtain ⟨t, ht, hvalue, hleft⟩ := Text.exists_afterQuote?_doubled text hquote
  have hsymbol : symbol? ('\'' :: (Text.doubled '\'' text ++ '\'' :: rest)) = none :=
    symbol?_eq_none (by decide)
  -- a quote is neither a symbol nor half of one, and the reader comes to the quoted text
  rw [List.append_assoc, List.singleton_append, read.eq_3 _ _ _ (by decide), hsymbol]
  simp only
  rw [if_neg (by decide), if_pos (by decide), ht]
  exact ⟨_, rfl, congrArg (fun l => literal (.string (String.ofList l))) hvalue, hleft⟩

/-! ### Numbers -/

theorem isDigit_of_delimits (h : Delimits rest) : ∀ c ∈ rest.head?, c.isDigit = false :=
  h.eq_false rfl rfl

theorem exponentLength_of_delimits (h : Delimits rest) : exponentLength rest = 0 := by
  cases rest with
  | nil => rfl
  | cons c rest =>
    rcases h c rfl with rfl | rfl <;> rfl

/-- The digits behind a point, with the point, or nothing. -/
def IsFraction (fraction : List Char) : Prop :=
  fraction = [] ∨ ∃ places, fraction = '.' :: places ∧ ∀ c ∈ places, c.isDigit = true

theorem fractionLength_append {fraction : List Char} (h : IsFraction fraction)
    (hrest : Delimits rest) : fractionLength (fraction ++ rest) = fraction.length := by
  rcases h with rfl | ⟨places, rfl, hplaces⟩
  · cases rest with
    | nil => rfl
    | cons c rest => rcases hrest c rfl with rfl | rfl <;> rfl
  · rw [List.cons_append, fractionLength, takeWhile_append_eq hplaces (isDigit_of_delimits hrest),
      List.length_cons, Nat.add_comm]

theorem isDigit_head?_fraction {fraction : List Char} (h : IsFraction fraction)
    (hrest : Delimits rest) : ∀ c ∈ (fraction ++ rest).head?, c.isDigit = false := by
  rcases h with rfl | ⟨places, rfl, -⟩
  · exact isDigit_of_delimits hrest
  · rintro c hc
    obtain rfl := Option.some.inj hc
    rfl

/-- Digits and a fraction are taken together. -/
theorem exists_number? {whole fraction : List Char} {n : Decimal} (hne : whole ≠ [])
    (hwhole : ∀ c ∈ whole, c.isDigit = true) (hfraction : IsFraction fraction)
    (hread : Decimal.ofChars? (whole ++ fraction) = some n) (hrest : Delimits rest) (position : Nat) :
    ∃ t, number? position (whole ++ fraction ++ rest) = .ok (some t) ∧
      t.value = .literal (.number n) ∧ t.rest = rest := by
  -- each of the three parts ends where the next begins, and the exponent is empty
  have hdigits : (whole ++ fraction ++ rest).takeWhile Char.isDigit = whole := by
    rw [List.append_assoc]
    exact takeWhile_append_eq hwhole (isDigit_head?_fraction hfraction hrest)
  have hbehind : (whole ++ fraction ++ rest).drop whole.length = fraction ++ rest := by
    rw [List.append_assoc, List.drop_left]
  have hlength : whole.length + fraction.length = (whole ++ fraction).length :=
    List.length_append.symm
  have hshorter : rest.length < (whole ++ fraction ++ rest).length := by
    have := List.length_pos_iff.mpr hne
    simp only [List.length_append]
    omega
  simp only [number?, hdigits, hbehind, fractionLength_append hfraction hrest, hlength, List.drop_left,
    exponentLength_of_delimits hrest, Nat.add_zero, List.take_left, if_true, hread, Taken.of?,
    dif_pos hshorter]
  exact ⟨_, rfl, rfl, rfl⟩

theorem gives_number {n : Decimal} (hn : n.negative = false) (hrest : Delimits rest) :
    Gives n.toChars rest [.literal (.number n)] := by
  obtain ⟨whole, places, hchars, hdigits, -, -, hne⟩ := Decimal.exists_toChars hn
  rw [List.forall_mem_append] at hdigits
  have hread := Decimal.ofChars?_toChars fun _ => hn
  -- a number without places is written without a point
  have hfraction : IsFraction (if n.scale = 0 then [] else '.' :: places) := by
    split
    · exact Or.inl rfl
    · exact Or.inr ⟨places, rfl, hdigits.2⟩
  rw [hchars] at hread ⊢
  have hnumber := exists_number? hne hdigits.1 hfraction hread hrest
  obtain ⟨c, others, rfl⟩ := List.exists_cons_of_ne_nil hne
  have hc := hdigits.1 c List.mem_cons_self
  simp only [List.cons_append] at hnumber ⊢
  refine gives_single (isBlank_of_isDigit hc) fun position => ?_
  obtain ⟨t, ht, hvalue, hleft⟩ := hnumber position
  exact ⟨t, by rw [read_of_isDigit hc, ht], hvalue, hleft⟩

end Lexemes

end Formulary
