import Formulary.Proofs.Expression.Nesting
import Formulary.Proofs.Lexeme.Writing
import Formulary.Proofs.Screen.Forbidden
import Formulary.Proofs.Screen.Parentheses

/-!
# Expressions are read as they are written

`Expression.toChars` writes an expression in **call syntax**: no operators, variables behind their mark, and
the arguments of a call in parentheses. It is read as that expression if it passes the screen and its depth is
allowed, and is refused for its depth otherwise (`ofText_toText`).

The text is taken apart along the expression. `Reads` says of a front of a text all that is needed of it: which
lexemes it gives, and that its parentheses pair up. The lexemes are `Expression.lexemes`. They derive the
expression with as many levels of nesting as it is deep, and since no operator is among them, with no less
(`Derives.depth_le`).

A negative zero is written with a sign, as any negative number is, so it is no literal of call syntax.
-/

namespace Formulary

namespace Expression

/-! ### Call syntax -/

/-- The text of a literal. Dates and option lists are not written as literals. -/
def literalChars : Value → List Char
  | .number n => n.toChars
  | .string s => Text.quote '\'' s.toList
  | .boolean b => (Value.boolText b).toList
  | .null => "null".toList
  | .dateTime _ => []
  | .optionList _ => []

mutual

/-- The text of an expression in call syntax, as characters. -/
def toChars : Expression → List Char
  | literal v => literalChars v
  | var name => '$' :: name.toList
  | call function arguments =>
    function.toList ++ '(' :: (List.intercalate [',', ' '] (toCharsOfEach arguments) ++ [')'])

/-- The texts of several expressions. -/
def toCharsOfEach : List Expression → List (List Char)
  | [] => []
  | e :: rest => e.toChars :: toCharsOfEach rest

end

/-- The text of an expression in call syntax. -/
def toText (e : Expression) : String := String.ofList e.toChars

mutual

/-- The lexemes of an expression in call syntax. -/
def lexemes : Expression → List Lexeme
  | literal v => [.literal v]
  | var name => [.var name]
  | call function arguments =>
    .name function :: .symbol .leftParen ::
      (commaSeparated (lexemesOfEach arguments) ++ [.symbol .rightParen])

/-- The lexemes of several expressions. -/
def lexemesOfEach : List Expression → List (List Lexeme)
  | [] => []
  | e :: rest => e.lexemes :: lexemesOfEach rest

end

theorem toCharsOfEach_eq (arguments : List Expression) :
    toCharsOfEach arguments = arguments.map toChars := by
  induction arguments with
  | nil => rfl
  | cons e rest ih => rw [toCharsOfEach, ih, List.map_cons]

theorem lexemesOfEach_eq (arguments : List Expression) :
    lexemesOfEach arguments = arguments.map lexemes := by
  induction arguments with
  | nil => rfl
  | cons e rest ih => rw [lexemesOfEach, ih, List.map_cons]

/-- An expression that call syntax can write: its numbers have no sign, its variables and functions have the
names that a reader of names takes, and the names of functions are in upper case. -/
inductive Writable : Expression → Prop where
  | number {n : Decimal} (h : n.negative = false) : Writable (.literal (.number n))
  | string (s : String) : Writable (.literal (.string s))
  | boolean (b : Bool) : Writable (.literal (.boolean b))
  | null : Writable (.literal .null)
  | var {name : String} (hne : name.toList ≠ []) (h : ∀ c ∈ name.toList, Lexeme.isNameChar c = true) :
    Writable (.var name)
  | call {function : String} {arguments : List Expression}
    (hfirst : ∃ c rest, function.toList = c :: rest ∧ Lexeme.startsName c = true)
    (hname : ∀ c ∈ function.toList, Lexeme.isNameChar c = true)
    (hupper : Text.upperString function = function)
    (h : ∀ e ∈ arguments, Writable e) : Writable (.call function arguments)

/-! ### Depth -/

/-- What is written derives the expression, with as many levels of nesting as it is deep. -/
theorem Writable.derives {e : Expression} (h : e.Writable) : Derives .primary e.depth e.lexemes e := by
  induction h with
  | number _ => exact .literal _ _
  | string _ => exact .literal _ _
  | boolean _ => exact .literal _ _
  | null => exact .literal _ _
  | var _ _ => exact .var _ _
  | @call function arguments _ _ hupper _ ih =>
    -- the arguments are derived up to the depth of the deepest, and the call is one level above them
    have hcall := Derives.call (n := depthOfAll arguments) function
      (arguments.map fun e => (e.lexemes, e)) ?_
    · have hlexemes : (arguments.map fun e => (e.lexemes, e)).map (·.1) = arguments.map lexemes := by
        rw [List.map_map]
        rfl
      have harguments : (arguments.map fun e => (e.lexemes, e)).map (·.2) = arguments := by
        rw [List.map_map]
        exact List.map_id arguments
      rwa [hlexemes, harguments, hupper, Nat.add_comm, ← lexemesOfEach_eq] at hcall
    · rintro a ha
      obtain ⟨e, he, rfl⟩ := List.mem_map.mp ha
      exact ((ih e he).mono (depth_le_depthOfAll he)).chain_of_primary _

end Expression

/-- Lexemes without operators. -/
def OperatorFree (ts : List Lexeme) : Prop :=
  ∀ s, .symbol s ∈ ts → s ∈ [Symbol.comma, .leftParen, .rightParen]

theorem OperatorFree.operatorWeight_eq_zero {ts : List Lexeme} (h : OperatorFree ts) (behind : Bool) :
    operatorWeight behind ts = 0 := by
  induction ts generalizing behind with
  | nil => rfl
  | cons t ts ih =>
    have hweight : t.weight = 0 := by
      cases t with
      | symbol s =>
        have hsymbols : ∀ s ∈ [Symbol.comma, .leftParen, .rightParen], s.weight = 0 := by decide
        exact hsymbols s (h s List.mem_cons_self)
      | _ => rfl
    rw [operatorWeight, ih fun s hs => h s (List.mem_cons_of_mem _ hs), hweight, ite_self]

/-- Without operators, an expression is as deep as its lexemes are nested. -/
theorem Derives.depth_le {p : Phrase} {n : Nat} {ts : List Lexeme} {e : Expression}
    (h : Derives p n ts e) (hfree : OperatorFree ts) : e.depth ≤ n := by
  have hdepth := h.depth_le_add
  rwa [hfree.operatorWeight_eq_zero, Nat.add_zero] at hdepth

namespace OperatorFree

theorem append {ts us : List Lexeme} (h : OperatorFree ts) (h' : OperatorFree us) :
    OperatorFree (ts ++ us) :=
  fun s hs => (List.mem_append.mp hs).elim (h s) (h' s)

theorem cons {t : Lexeme} {ts : List Lexeme} (ht : OperatorFree [t]) (h : OperatorFree ts) :
    OperatorFree (t :: ts) :=
  ht.append h

theorem commaSeparated {tss : List (List Lexeme)} (h : ∀ ts ∈ tss, OperatorFree ts) :
    OperatorFree (commaSeparated tss) := by
  refine commaSeparated_induction (by simp [OperatorFree]) (fun ts us hts hus => ?_) h
  exact hts.append (.cons (by simp [OperatorFree]) hus)

end OperatorFree

theorem Expression.Writable.operatorFree {e : Expression} (h : e.Writable) :
    OperatorFree e.lexemes := by
  induction h with
  | @call function arguments _ _ _ _ ih =>
    have harguments : ∀ ts ∈ arguments.map lexemes, OperatorFree ts := by
      intro ts hts
      obtain ⟨e, he, rfl⟩ := List.mem_map.mp hts
      exact ih e he
    rw [lexemes, lexemesOfEach_eq]
    exact .cons (by simp [OperatorFree]) (.cons (by simp [OperatorFree])
      ((OperatorFree.commaSeparated harguments).append (by simp [OperatorFree])))
  | _ => simp [OperatorFree, lexemes]

/-! ### Reading what is written -/

/-- A front of a text gives certain lexemes, and its parentheses pair up. -/
structure Reads (text rest : List Char) (ts : List Lexeme) : Prop where
  gives : Lexemes.Gives text rest ts
  balances : Screen.Balances text rest

namespace Reads

variable {text more rest : List Char} {ts us : List Lexeme}

theorem append (h : Reads text (more ++ rest) ts) (h' : Reads more rest us) :
    Reads (text ++ more) rest (ts ++ us) :=
  ⟨h.gives.append h'.gives, h.balances.append h'.balances⟩

/-- A comma and a space stand between arguments. -/
theorem separator (rest : List Char) : Reads [',', ' '] rest [.symbol .comma] :=
  ⟨(Lexemes.gives_comma _).append (Lexemes.gives_blank (by decide) rest),
    Screen.balances_of_forall (Text.forall_mem_of_all (by decide)) rest⟩

theorem separated {arguments : List Expression}
    (h : ∀ e ∈ arguments, ∀ rest, Lexemes.Delimits rest → Reads e.toChars rest e.lexemes)
    (hrest : Lexemes.Delimits rest) :
    Reads (List.intercalate [',', ' '] (arguments.map Expression.toChars)) rest
      (commaSeparated (arguments.map Expression.lexemes)) := by
  induction arguments with
  | nil => exact ⟨Lexemes.gives_nil rest, Screen.balances_nil rest⟩
  | cons first others ih =>
    obtain ⟨hfirst, hothers⟩ := List.forall_mem_cons.mp h
    -- behind the last argument comes `rest`, behind any other a comma
    cases others with
    | nil => simpa using hfirst rest hrest
    | cons second others =>
      have hmore := (separator _).append (ih hothers)
      have hall := (hfirst _ (Lexemes.delimits_comma _)).append hmore
      simpa using hall

theorem parentheses (h : Reads text (')' :: rest) ts) :
    Reads ('(' :: (text ++ [')'])) rest (.symbol .leftParen :: (ts ++ [.symbol .rightParen])) :=
  ⟨(Lexemes.gives_leftParen _).append (h.gives.append (Lexemes.gives_rightParen rest)),
    h.balances.parentheses⟩

end Reads

/-! ### Characters of words -/

/-- A character that is neither white space nor of any meaning for the check of parentheses. -/
def Solid (c : Char) : Prop := Text.isBlank c = false ∧ c ∉ Screen.delimiters

theorem solid_of_isNameChar {c : Char} (h : Lexeme.isNameChar c = true) : Solid c := by
  have hdelimiters : ∀ d ∈ Screen.delimiters, Lexeme.isNameChar d = false :=
    Text.forall_mem_of_all (by decide)
  exact ⟨Lexeme.isBlank_of_isNameChar h, Screen.not_mem_delimiters hdelimiters h⟩

theorem solid_of_isDigit {c : Char} (h : c.isDigit = true) : Solid c := by
  refine solid_of_isNameChar ?_
  rw [Lexeme.isNameChar, Text.isAlphanumeric, Text.isNumeric, if_pos (Text.toNat_lt_of_isDigit h), h,
    Bool.or_true, Bool.true_or, Bool.true_or]

theorem solid_of_mem_toChars {n : Decimal} (hn : n.negative = false) {c : Char} (h : c ∈ n.toChars) :
    Solid c := by
  obtain ⟨whole, places, hchars, hdigits, -⟩ := Decimal.exists_toChars hn
  rw [List.forall_mem_append] at hdigits
  rw [hchars, List.mem_append] at h
  rcases h with hwhole | hfraction
  · exact solid_of_isDigit (hdigits.1 c hwhole)
  · split at hfraction
    · exact absurd hfraction (by simp)
    · rcases List.mem_cons.mp hfraction with rfl | hplaces
      · exact solid_of_isNameChar (by decide)
      · exact solid_of_isDigit (hdigits.2 c hplaces)

/-- A text that is not empty and has no white space at its ends. -/
structure Enclosed (text : List Char) : Prop where
  ne_nil : text ≠ []
  first : ∀ c ∈ text.head?, Text.isBlank c = false
  last : ∀ c ∈ text.getLast?, Text.isBlank c = false

theorem enclosed_of_ends {c d : Char} (hc : Text.isBlank c = false) (middle : List Char)
    (hd : Text.isBlank d = false) : Enclosed (c :: (middle ++ [d])) := by
  refine ⟨List.cons_ne_nil _ _, ?_, ?_⟩
  · rintro _ ⟨⟩
    exact hc
  · rw [← List.cons_append, List.getLast?_concat]
    rintro _ ⟨⟩
    exact hd

theorem enclosed_of_solid {text : List Char} (hne : text ≠ []) (h : ∀ c ∈ text, Solid c) :
    Enclosed text :=
  ⟨hne, fun c hc => (h c (List.mem_of_mem_head? hc)).1, fun c hc => (h c (List.mem_of_getLast? hc)).1⟩

theorem reads_of_solid {text rest : List Char} {ts : List Lexeme} (htext : ∀ c ∈ text, Solid c)
    (h : Lexemes.Gives text rest ts) : Reads text rest ts :=
  ⟨h, Screen.balances_of_forall (fun c hc => (htext c hc).2) rest⟩

theorem reads_keyword (c : Char) (text : List Char) {rest : List Char} {v : Value}
    (hc : Lexeme.startsName c = true) (htext : ∀ d ∈ text, Lexeme.isNameChar d = true)
    (hkeyword : Lexeme.keyword? (c :: text) = some v) (hrest : Lexemes.Delimits rest) :
    Reads (c :: text) rest [.literal v] := by
  refine reads_of_solid (fun d hd => solid_of_isNameChar ?_)
    (Lexemes.gives_keyword hc htext hkeyword hrest)
  rcases List.mem_cons.mp hd with rfl | hd
  · exact Lexeme.isNameChar_of_startsName hc
  · exact htext d hd

/-- A text that is made of lexemes, with parentheses that pair up, passes the screen, its length and its tokens
aside. -/
theorem Reads.check {limits : Limits} {text : List Char} {ts : List Lexeme} (h : Reads text [] ts)
    (henclosed : Enclosed text) (hlength : text.length ≤ limits.maxLength)
    (hsafe : Screen.isSafe text = true) : Screen.check limits text = .ok () := by
  -- the first character alone shows that the text is not blank
  have hblank : Text.isAllBlank text = false := by
    obtain ⟨c, rest, hchars⟩ := List.exists_cons_of_ne_nil henclosed.ne_nil
    have hc := henclosed.first c (by rw [hchars]; rfl)
    rw [hchars, Text.isAllBlank, List.all_cons, hc, Bool.false_and]
  exact Screen.check_eq_ok_iff.mpr ⟨hblank, hlength, h.balances.check, hsafe⟩

namespace Expression

/-- A text that passes the screen is read as what its lexemes derive. -/
theorem ofText_of_reads {limits : Limits} {text : String} {ts : List Lexeme} {e : Expression}
    (h : Reads text.toList [] ts) (henclosed : Enclosed text.toList)
    (hlength : text.toList.length ≤ limits.maxLength) (hsafe : Screen.isSafe text.toList = true)
    (hderives : Derives (.chain .disjunction) limits.maxDepth ts e) : ofText limits text = .ok e := by
  obtain ⟨items, position, hlexemes, rfl⟩ := h.gives.ofChars
  refine ofText_eq_ok_iff.mpr ⟨h.check henclosed hlength hsafe, items, position, ?_, hderives⟩
  rw [Text.trim_eq_self henclosed.first henclosed.last, hlexemes]

/-- What may follow an argument may follow what is written. -/
theorem Writable.reads {e : Expression} (h : e.Writable) {rest : List Char}
    (hrest : Lexemes.Delimits rest) : Reads e.toChars rest e.lexemes := by
  -- what follows differs from argument to argument
  induction h generalizing rest with
  | number hn => exact reads_of_solid (fun _ => solid_of_mem_toChars hn) (Lexemes.gives_number hn hrest)
  | string s =>
    -- the screen goes through the quoted text by its own rule for doubled quotes
    have hgives := Lexemes.gives_quoted s.toList hrest
    rw [String.ofList_toList] at hgives
    exact ⟨hgives, Screen.balances_quote (Or.inr rfl) _ (hrest.head?_ne (by decide) (by decide))⟩
  | boolean b =>
    cases b with
    | true =>
      exact reads_keyword 't' ['r', 'u', 'e'] (by decide)
        (Text.forall_mem_of_all (by decide)) rfl hrest
    | false =>
      exact reads_keyword 'f' ['a', 'l', 's', 'e'] (by decide)
        (Text.forall_mem_of_all (by decide)) rfl hrest
  | null =>
    exact reads_keyword 'n' ['u', 'l', 'l'] (by decide)
      (Text.forall_mem_of_all (by decide)) rfl hrest
  | @var name hne hname =>
    have hgives := Lexemes.gives_var hne hname hrest
    rw [String.ofList_toList] at hgives
    refine reads_of_solid (List.forall_mem_cons.mpr ⟨?_, fun c hc => ?_⟩) hgives
    · exact ⟨by decide, by decide⟩
    · exact solid_of_isNameChar (hname c hc)
  | @call function arguments hfirst hname _ _ ih =>
    obtain ⟨c, more, hchars, hc⟩ := hfirst
    -- behind each argument stands a comma or the closing parenthesis, which ends every lexeme
    have harguments := Reads.separated (fun e he rest hrest => ih e he hrest)
      (Lexemes.delimits_rightParen rest)
    have hfunction : Reads function.toList
        ('(' :: (List.intercalate [',', ' '] (arguments.map toChars) ++ [')']) ++ rest)
        [.name function] := by
      refine reads_of_solid (fun c hc => solid_of_isNameChar (hname c hc)) ?_
      rw [hchars] at hname
      have hgives := Lexemes.gives_name hc (List.forall_mem_cons.mp hname).2
        (List.intercalate [',', ' '] (arguments.map toChars) ++ [')'] ++ rest)
      rwa [← hchars, String.ofList_toList] at hgives
    rw [toChars, toCharsOfEach_eq, lexemes, lexemesOfEach_eq]
    exact hfunction.append harguments.parentheses

/-- What is written has no white space at its ends. -/
theorem Writable.enclosed {e : Expression} (h : e.Writable) : Enclosed e.toChars := by
  cases h with
  | @number n hn =>
    refine enclosed_of_solid ?_ fun _ => solid_of_mem_toChars hn
    obtain ⟨whole, places, hchars, -, -, -, hne⟩ := Decimal.exists_toChars hn
    rw [toChars, literalChars, hchars]
    simp [hne]
  | string s => exact enclosed_of_ends (by decide) _ (by decide)
  | boolean b =>
    cases b with
    | true => exact enclosed_of_ends (c := 't') (d := 'e') rfl ['r', 'u'] rfl
    | false => exact enclosed_of_ends (c := 'f') (d := 'e') rfl ['a', 'l', 's'] rfl
  | null => exact enclosed_of_ends (c := 'n') (d := 'l') rfl ['u', 'l'] rfl
  | var hne hname =>
    refine enclosed_of_solid (List.cons_ne_nil _ _) (List.forall_mem_cons.mpr ⟨?_, fun c hc => ?_⟩)
    · exact ⟨by decide, by decide⟩
    · exact solid_of_isNameChar (hname c hc)
  | @call function arguments hfirst hname _ _ =>
    obtain ⟨c, more, hchars, hc⟩ := hfirst
    -- a call begins with a character of its name and ends with its parenthesis
    have hblank := Lexeme.isBlank_of_isNameChar (Lexeme.isNameChar_of_startsName hc)
    have hends := enclosed_of_ends hblank
      (more ++ '(' :: List.intercalate [',', ' '] (toCharsOfEach arguments)) (d := ')') (by decide)
    rw [toChars, hchars]
    simpa using hends

/-- What is written passes the screen, its length and its tokens aside. -/
theorem Writable.check {limits : Limits} {e : Expression} (h : e.Writable)
    (hlength : e.toChars.length ≤ limits.maxLength) (hsafe : Screen.isSafe e.toChars = true) :
    Screen.check limits e.toChars = .ok () :=
  (h.reads Lexemes.delimits_nil).check h.enclosed hlength hsafe

/-- **What is written of an expression is read as that expression**, if its depth is allowed; else it is
refused for that. The length of the text and the tokens in it have to pass the screen. -/
theorem ofText_toText (limits : Limits) (e : Expression) (h : e.Writable)
    (hlength : e.toChars.length ≤ limits.maxLength) (hsafe : Screen.isSafe e.toChars = true) :
    ofText limits e.toText =
      if e.depth ≤ limits.maxDepth then .ok e else .error (.nestingTooDeep limits.maxDepth) := by
  have hderives := h.derives.chain_of_primary .disjunction
  obtain ⟨items, position, hlexemes, hitems⟩ := (h.reads Lexemes.delimits_nil).gives.ofChars
  rw [← hitems] at hderives
  rw [ofText, ofChars, toText, String.toList_ofList, h.check hlength hsafe, ok_bind,
    Text.trim_eq_self h.enclosed.first h.enclosed.last, hlexemes]
  split
  · next hdepth => exact ofLexemes_eq_ok_iff.mpr (hderives.mono hdepth)
  · next hdepth =>
    refine ofLexemes_eq_error hderives ?_
    rintro ⟨e', hderives'⟩
    -- the lexemes spell no other expression, and this one needs as many levels as it is deep
    obtain rfl := Spells.unique ⟨_, hderives⟩ ⟨_, hderives'⟩
    exact hdepth (hderives'.depth_le (hitems ▸ h.operatorFree))

/-! ### A call with a call in it -/

/-- `CONCAT('it''s (', ADD(1.500, $x), true)` -/
def greeting : Expression :=
  .call "CONCAT" [.literal (.string "it's ("),
    .call "ADD" [.literal (.number ⟨false, 1500, 3, by decide, by decide⟩), .var "x"],
    .literal (.boolean true)]

theorem writable_greeting : greeting.Writable := by
  refine .call ⟨'C', _, rfl, by decide⟩ (Text.forall_mem_of_all (by decide))
    (by decide) ?_
  have hadd : Writable
      (.call "ADD" [.literal (.number ⟨false, 1500, 3, by decide, by decide⟩), .var "x"]) := by
    refine .call ⟨'A', _, rfl, by decide⟩ (Text.forall_mem_of_all (by decide))
      (by decide) ?_
    simp only [List.forall_mem_cons]
    exact ⟨.number rfl, .var (by decide) (Text.forall_mem_of_all (by decide)), by simp⟩
  simp only [List.forall_mem_cons]
  exact ⟨.string _, hadd, .boolean true, by simp⟩

theorem ofText_toText_greeting :
    greeting.Writable ∧ greeting.toText = "CONCAT('it''s (', ADD(1.500, $x), true)" ∧
      greeting.toChars.length ≤ 8192 ∧ Screen.isSafe greeting.toChars = true ∧
      ofText ⟨8192, 2⟩ greeting.toText = .ok greeting ∧
      ofText ⟨8192, 1⟩ greeting.toText = .error (.nestingTooDeep 1) := by
  have hlength : greeting.toChars.length ≤ 8192 := by decide
  have hsafe : Screen.isSafe greeting.toChars = true := rfl
  refine ⟨writable_greeting, by decide, hlength, hsafe, ?_, ?_⟩
  · exact ofText_toText ⟨8192, 2⟩ greeting writable_greeting hlength hsafe
  · exact ofText_toText ⟨8192, 1⟩ greeting writable_greeting hlength hsafe

end Expression

end Formulary
