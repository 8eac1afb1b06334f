import Formulary.Proofs.Expression.Rendering
import Formulary.Proofs.Lexeme.Extension

/-!
# Expressions put together

A text that is read as an expression can be put in parentheses as an operand of any operator, and is read as the
same expression there (`Expression.ofText_composed`). The text around it changes nothing in it: what the text passes the
screen with it passes it with in a longer text, since parentheses and white space are in no forbidden token, and the
lexemes that it is made of are read up to the parenthesis behind it (`Accepted`).

All that the larger expression needs is one more level of nesting for the parentheses, and one for a sign before
them.
-/

namespace Formulary

open Screen (isSafe)

/-! ### Texts in parentheses -/

/-- A text that stands for an expression, wherever it stands, as long as what follows shuts it. -/
structure Accepted (text : List Char) (n : Nat) (e : Expression) : Prop where
  /-- It is made of lexemes that derive the expression, and its parentheses pair up. -/
  reads : ∃ ts, Derives (.chain .disjunction) n ts e ∧ ∀ rest, Shuts rest → Reads text rest ts
  /-- It holds no forbidden token. -/
  safe : isSafe text = true

/-- A text that stands for an operand in parentheses, whatever follows it. -/
structure IsOperand (text : List Char) (n : Nat) (e : Expression) : Prop where
  /-- It is made of lexemes that derive the operand, and its parentheses pair up. -/
  reads : ∃ ts, Derives .primary n ts e ∧ ∀ rest, Reads text rest ts
  /-- It holds no forbidden token. -/
  safe : isSafe text = true
  /-- It starts and ends with a parenthesis. -/
  ends : ∃ inner, text = '(' :: (inner ++ [')'])

theorem Shuts.not_quote {rest : List Char} (h : Shuts rest) : ∀ c ∈ rest.head?, ¬(c = '"' ∨ c = '\'') := by
  rintro c hc (rfl | rfl)
  · exact h.head?_ne (by decide) (by decide) hc
  · exact h.head?_ne (by decide) (by decide) hc

/-- A text that is read as an expression stands for it wherever it stands. -/
theorem accepted_of_ofText {limits : Limits} {text : String} {e : Expression}
    (h : Expression.ofText limits text = .ok e) : Accepted text.toList limits.maxDepth e := by
  obtain ⟨hscreen, items, last, hlexemes, hderives⟩ := Expression.ofText_eq_ok_iff.mp h
  obtain ⟨-, -, hparentheses, hsafe⟩ := Screen.check_eq_ok_iff.mp hscreen
  refine ⟨⟨_, hderives, fun rest hrest => ⟨?_, ?_⟩⟩, hsafe⟩
  · -- white space at the ends gives nothing
    obtain ⟨after, hafter, htext⟩ := Text.exists_trim text.toList
    have hbefore : Lexemes.Gives (text.toList.takeWhile Text.isBlank)
        (Text.trim text.toList ++ after ++ rest) [] :=
      Lexemes.gives_blanks (fun _ => List.mem_takeWhile_imp) _
    have hmiddle := Lexemes.gives_of_ofChars hlexemes (hrest.blank hafter)
    have hall := hbefore.append (hmiddle.append (Lexemes.gives_blanks hafter rest))
    rwa [← htext, List.nil_append, List.append_nil] at hall
  · exact Screen.balances_of_check hparentheses hrest.not_quote

/-- Neither a parenthesis nor a space is in a word or in a forbidden sequence. -/
theorem isSafe_append_separator_iff {c : Char} (hc : c ∈ ['(', ')', ' ']) {text more : List Char} :
    isSafe (text ++ c :: more) = true ↔ isSafe text = true ∧ isSafe more = true := by
  have hseparators : ∀ c ∈ ['(', ')', ' '], Text.isWordChar c = false ∧
      ∀ s ∈ Screen.forbiddenSequences, Screen.fold c ∉ s := Text.forall_mem_of_all (by decide)
  obtain ⟨hword, hsequence⟩ := hseparators c hc
  exact Screen.isSafe_append_cons_iff hword hsequence

/-- In parentheses it is an operand, one level of nesting deeper. -/
theorem Accepted.parentheses {text : List Char} {n : Nat} {e : Expression} (h : Accepted text n e) :
    IsOperand ('(' :: (text ++ [')'])) (n + 1) e := by
  obtain ⟨⟨ts, hderives, hreads⟩, hsafe⟩ := h
  refine ⟨⟨_, hderives.parentheses, fun rest => (hreads _ (.rightParen rest)).parentheses⟩, ?_, text, rfl⟩
  have hopen : isSafe ([] ++ '(' :: (text ++ [')'])) = true ↔ _ :=
    isSafe_append_separator_iff (by decide)
  have hclose : isSafe (text ++ [')']) = true ↔ _ := isSafe_append_separator_iff (by decide)
  exact hopen.mpr ⟨rfl, hclose.mpr ⟨hsafe, rfl⟩⟩

/-! ### Operators -/

/-- An operand is a chain of any level, and of the loosest level are all chains. -/
theorem Derives.disjunction {level : Level} {n : Nat} {ts : List Lexeme} {e : Expression}
    (h : Derives (.chain level) n ts e) : Derives (.chain .disjunction) n ts e := by
  cases level with
  | disjunction => exact h
  | conjunction => exact .operand h
  | comparison => exact .operand (.operand h)
  | sum => exact .operand (.operand (.operand h))
  | product => exact .operand (.operand (.operand (.operand h)))

theorem Derives.operand_of_primary {n : Nat} {ts : List Lexeme} {e : Expression}
    (h : Derives .primary n ts e) (level : Level) : Derives level.operand n ts e := by
  cases level with
  | product => exact .unsigned h
  | _ => exact h.chain_of_primary _

namespace Expression

/-- How the binary operators are written, with what each makes of its operands. -/
def binaryOperators : List (String × (Expression → Expression → Expression)) :=
  [("+", fun a b => .call "ADD" [a, b]),
    ("-", fun a b => .call "SUBTRACT" [a, b]),
    ("*", fun a b => .call "MULTIPLY" [a, b]),
    ("/", fun a b => .call "DIVIDE" [a, b]),
    ("==", fun a b => .call "EQUALS" [a, b]),
    ("=", fun a b => .call "EQUALS" [a, b]),
    ("!=", fun a b => .call "NOT" [.call "EQUALS" [a, b]]),
    ("<>", fun a b => .call "NOT" [.call "EQUALS" [a, b]]),
    ("<", fun a b => .call "LESS_THAN" [a, b]),
    (">", fun a b => .call "GREATER_THAN" [a, b]),
    ("<=", fun a b => .call "NOT" [.call "GREATER_THAN" [a, b]]),
    (">=", fun a b => .call "NOT" [.call "LESS_THAN" [a, b]]),
    ("&&", fun a b => .call "AND" [a, b]),
    ("||", fun a b => .call "OR" [a, b])]

variable {op : String × (Expression → Expression → Expression)}

theorem isSafe_of_mem_binaryOperators (h : op ∈ binaryOperators) : isSafe op.1.toList = true := by
  have hsafe : ∀ op ∈ binaryOperators, isSafe op.1.toList = true := by decide
  exact hsafe op h

/-- An operator is one symbol in front of a space, and belongs to a level. -/
theorem exists_symbol (h : op ∈ binaryOperators) :
    ∃ (level : Level) (s : Symbol), level.join? s = some op.2 ∧
      ∀ rest, Lexemes.Gives op.1.toList (' ' :: rest) [.symbol s] := by
  simp only [binaryOperators, List.mem_cons, List.not_mem_nil, or_false] at h
  rcases h with rfl | rfl | rfl | rfl | rfl | rfl | rfl | rfl | rfl | rfl | rfl | rfl | rfl | rfl
  map_tacs [refine ⟨.sum, .plus, rfl, ?_⟩; refine ⟨.sum, .minus, rfl, ?_⟩;
    refine ⟨.product, .star, rfl, ?_⟩; refine ⟨.product, .slash, rfl, ?_⟩;
    refine ⟨.comparison, .equal, rfl, ?_⟩; refine ⟨.comparison, .equal, rfl, ?_⟩;
    refine ⟨.comparison, .notEqual, rfl, ?_⟩; refine ⟨.comparison, .notEqual, rfl, ?_⟩;
    refine ⟨.comparison, .lessThan, rfl, ?_⟩; refine ⟨.comparison, .greaterThan, rfl, ?_⟩;
    refine ⟨.comparison, .lessEqual, rfl, ?_⟩; refine ⟨.comparison, .greaterEqual, rfl, ?_⟩;
    refine ⟨.conjunction, .and, rfl, ?_⟩; refine ⟨.disjunction, .or, rfl, ?_⟩]
  all_goals exact fun rest => Lexemes.gives_single (by decide) fun _ => ⟨_, rfl, rfl, rfl⟩

/-- An operator with a space on either side is read as its symbol. -/
theorem exists_reads_operator (h : op ∈ binaryOperators) :
    ∃ (level : Level) (s : Symbol), level.join? s = some op.2 ∧
      ∀ rest, Reads (' ' :: (op.1.toList ++ [' '])) rest [.symbol s] := by
  obtain ⟨level, s, hjoin, hgives⟩ := exists_symbol h
  refine ⟨level, s, hjoin, fun rest => ⟨?_, Screen.balances_of_forall ?_ rest⟩⟩
  · exact (Lexemes.gives_blank (by decide) _).append
      ((hgives rest).append (Lexemes.gives_blank (by decide) rest))
  · have hchars : ∀ op ∈ binaryOperators,
        (' ' :: (op.1.toList ++ [' '])).all (fun c => c ∉ Screen.delimiters) = true := by decide
    exact Text.forall_mem_of_all (hchars op h)

end Expression

/-! ### Two operands, and one with a sign -/

namespace IsOperand

variable {text more : List Char} {n : Nat} {a b e : Expression} {limits : Limits} {whole : String}

/-- An operator between two operands joins them. -/
theorem ofText_join {op : String × (Expression → Expression → Expression)}
    (hop : op ∈ Expression.binaryOperators) (ha : IsOperand text limits.maxDepth a)
    (hb : IsOperand more limits.maxDepth b)
    (hwhole : whole.toList = text ++ (' ' :: (op.1.toList ++ ' ' :: more)))
    (hlength : whole.toList.length ≤ limits.maxLength) :
    Expression.ofText limits whole = .ok (op.2 a b) := by
  obtain ⟨⟨ts, hts, hreads⟩, hsafe, inner, rfl⟩ := ha
  obtain ⟨⟨us, hus, hreads'⟩, hsafe', inner', rfl⟩ := hb
  obtain ⟨level, s, hjoin, hoperator⟩ := Expression.exists_reads_operator hop
  -- in parentheses each side is a primary, so it may stand on either side whatever the level
  have hderives : Derives (.chain level) limits.maxDepth (ts ++ ([.symbol s] ++ us)) (op.2 a b) :=
    .join (hts.chain_of_primary level) (hus.operand_of_primary level) (joins_iff.mpr ⟨_, hjoin, rfl⟩)
  refine Expression.ofText_of_reads ?_ ?_ hlength ?_ hderives.disjunction
  · have hall := (hreads _).append ((hoperator _).append (hreads' []))
    simpa [hwhole] using hall
  · -- the whole text begins and ends with parentheses of its own, so trimming leaves it as it is
    have hends := enclosed_of_ends (c := '(') (d := ')') (by decide)
      (inner ++ ')' :: ' ' :: (op.1.toList ++ ' ' :: '(' :: inner')) (by decide)
    simpa [hwhole] using hends
  · -- spaces belong to no token: the text is safe if its three parts are
    have hspace {text more : List Char} : isSafe (text ++ ' ' :: more) = true ↔ _ :=
      isSafe_append_separator_iff (by decide)
    rw [hwhole, hspace, hspace]
    exact ⟨hsafe, Expression.isSafe_of_mem_binaryOperators hop, hsafe'⟩

/-- A sign before an operand is read with it. -/
theorem ofText_sign {sign : Char} {s : Symbol} (h : IsOperand text n a)
    (hsign : (sign = '!' ∧ s = .bang) ∨ (sign = '-' ∧ s = .minus))
    (hderives : ∀ ts, Derives .signed n ts a → Derives .signed limits.maxDepth (.symbol s :: ts) e)
    (hwhole : whole.toList = sign :: text) (hlength : whole.toList.length ≤ limits.maxLength) :
    Expression.ofText limits whole = .ok e := by
  obtain ⟨⟨ts, hts, hreads⟩, hsafe, inner, rfl⟩ := h
  -- what follows is a parenthesis, with which neither sign can be read as one symbol
  have hmark : Reads [sign] ('(' :: (inner ++ [')'])) [.symbol s] := by
    rcases hsign with ⟨rfl, rfl⟩ | ⟨rfl, rfl⟩
    · exact ⟨Lexemes.gives_single (by decide) fun _ => ⟨_, rfl, rfl, rfl⟩,
        Screen.balances_of_forall (Text.forall_mem_of_all (by decide)) _⟩
    · exact ⟨Lexemes.gives_single (by decide) fun _ => ⟨_, rfl, rfl, rfl⟩,
        Screen.balances_of_forall (Text.forall_mem_of_all (by decide)) _⟩
  have hchar : Text.isBlank sign = false ∧ isSafe [sign] = true := by
    rcases hsign with ⟨rfl, -⟩ | ⟨rfl, -⟩
    · decide
    · decide
  have hsigned : Derives (.chain .product) limits.maxDepth (.symbol s :: ts) e :=
    .operand (hderives ts (.unsigned hts))
  refine Expression.ofText_of_reads ?_ ?_ hlength ?_ hsigned.disjunction
  · have hall : Reads ([sign] ++ '(' :: (inner ++ [')'])) [] ([.symbol s] ++ ts) :=
      .append (by rwa [List.append_nil]) (hreads [])
    rw [hwhole]
    exact hall
  · rw [hwhole]
    exact enclosed_of_ends hchar.1 ('(' :: inner) (by decide)
  · -- the parenthesis belongs to no token, so what is safe behind it is safe behind the sign
    have hopen {text more : List Char} : isSafe (text ++ '(' :: more) = true ↔ _ :=
      isSafe_append_separator_iff (by decide)
    rw [← List.nil_append ('(' :: _), hopen] at hsafe
    rw [hwhole, ← List.singleton_append, hopen]
    exact ⟨hchar.2, hsafe.2⟩

end IsOperand

namespace Expression

/-- **Texts of expressions can be put together.** Two texts that are read as expressions up to some depth of nesting
are read as the same expressions when they stand in parentheses on either side of a binary operator, behind an
exclamation mark or behind a minus. The parentheses take one level of nesting, and a sign takes one more. -/
theorem ofText_composed {f g : String} {a b : Expression} {fLength gLength depth : Nat}
    (hf : ofText ⟨fLength, depth⟩ f = .ok a) (hg : ofText ⟨gLength, depth⟩ g = .ok b) (length : Nat) :
    (∀ op ∈ binaryOperators, ("(" ++ f ++ ") " ++ op.1 ++ " (" ++ g ++ ")").length ≤ length →
      ofText ⟨length, depth + 1⟩ ("(" ++ f ++ ") " ++ op.1 ++ " (" ++ g ++ ")") = .ok (op.2 a b)) ∧
    (("!(" ++ f ++ ")").length ≤ length →
      ofText ⟨length, depth + 2⟩ ("!(" ++ f ++ ")") = .ok (.call "NOT" [a])) ∧
    (("-(" ++ f ++ ")").length ≤ length →
      (∀ d, a = .literal (.number d) →
        ofText ⟨length, depth + 2⟩ ("-(" ++ f ++ ")") = .ok (.literal (.number (-d)))) ∧
      ((∀ d, a ≠ .literal (.number d)) →
        ofText ⟨length, depth + 2⟩ ("-(" ++ f ++ ")") =
          .ok (.call "SUBTRACT" [.literal (.number .zero), a]))) := by
  have ha : IsOperand _ (depth + 1) a := (accepted_of_ofText hf).parentheses
  have hb : IsOperand _ (depth + 1) b := (accepted_of_ofText hg).parentheses
  -- a minus in front of a number is part of the number, so the last case has two outcomes
  refine ⟨fun op hop hlength => ?_, fun hlength => ?_, fun hlength => ⟨?_, fun hnumber => ?_⟩⟩
  · refine IsOperand.ofText_join hop ha hb ?_ hlength
    simp
  · refine ha.ofText_sign (Or.inl ⟨rfl, rfl⟩) (fun ts hts => .bang hts) ?_ hlength
    simp
  · rintro d rfl
    refine ha.ofText_sign (Or.inr ⟨rfl, rfl⟩) (fun ts hts => .negativeNumber hts) ?_ hlength
    simp
  · refine ha.ofText_sign (Or.inr ⟨rfl, rfl⟩) (fun ts hts => .minus hts hnumber) ?_ hlength
    simp

/-- The number one with its sign, as `-1` is read. -/
def minusOne : Expression := .literal (.number (-.one))

theorem ofText_minusOne : ofText ⟨3, 1⟩ "-1 " = .ok minusOne := by
  have hlexemes : Lexemes.ofChars (Text.trim "-1 ".toList) =
      ⟨[⟨.symbol .minus, 0⟩, ⟨.literal (.number .one), 1⟩], .finished 2⟩ := by
    decide +kernel
  have hsigned : Derives (.chain .product) 1 [.symbol .minus, .literal (.number .one)] minusOne :=
    .operand (.negativeNumber (.unsigned (.literal 0 _)))
  exact ofText_eq_ok_iff.mpr ⟨by decide +kernel, _, _, hlexemes, hsigned.disjunction⟩

theorem ofText_markedName : ofText ⟨2, 1⟩ "$x" = .ok (.var "x") := by
  have hlexemes : Lexemes.ofChars (Text.trim "$x".toList) = ⟨[⟨.var "x", 0⟩], .finished 2⟩ := by
    decide +kernel
  have hname : Derives (.chain .disjunction) 1 [.var "x"] (.var "x") := (Derives.var 1 "x").chain_of_primary _
  exact ofText_eq_ok_iff.mpr ⟨by decide +kernel, _, _, hlexemes, hname⟩

/-- A negative number and a variable: white space stays within the parentheses, and a minus before the number in
parentheses takes its sign away. -/
theorem ofText_composed_signed :
    ofText ⟨3, 1⟩ "-1 " = .ok minusOne ∧ ofText ⟨2, 1⟩ "$x" = .ok (.var "x") ∧
      ofText ⟨13, 2⟩ "(-1 ) <> ($x)" = .ok (.call "NOT" [.call "EQUALS" [minusOne, .var "x"]]) ∧
      ofText ⟨6, 3⟩ "!(-1 )" = .ok (.call "NOT" [minusOne]) ∧
      ofText ⟨6, 3⟩ "-(-1 )" = .ok (.literal (.number .one)) ∧
      ofText ⟨5, 3⟩ "-($x)" = .ok (.call "SUBTRACT" [.literal (.number .zero), .var "x"]) := by
  obtain ⟨hbinary, -, -⟩ := ofText_composed ofText_minusOne ofText_markedName 13
  obtain ⟨-, hnot, hminus⟩ := ofText_composed ofText_minusOne ofText_markedName 6
  obtain ⟨-, -, hsubtract⟩ := ofText_composed ofText_markedName ofText_minusOne 5
  have hunequal : ("<>", fun a b => .call "NOT" [.call "EQUALS" [a, b]]) ∈ binaryOperators := by
    simp [binaryOperators]
  -- the statement names the texts as they are put together
  have hjoined : "(" ++ "-1 " ++ ") " ++ "<>" ++ " (" ++ "$x" ++ ")" = "(-1 ) <> ($x)" := by decide
  have hunequal' := hbinary _ hunequal (by decide)
  rw [hjoined] at hunequal'
  have hnegated : "!(" ++ "-1 " ++ ")" = "!(-1 )" := by decide
  have hnegative : "-(" ++ "-1 " ++ ")" = "-(-1 )" := by decide
  have hbelow : "-(" ++ "$x" ++ ")" = "-($x)" := by decide
  rw [hnegated] at hnot
  rw [hnegative] at hminus
  rw [hbelow] at hsubtract
  exact ⟨ofText_minusOne, ofText_markedName, hunequal', hnot (by decide),
    (hminus (by decide)).1 _ rfl, (hsubtract (by decide)).2 (by simp)⟩

end Expression

end Formulary
