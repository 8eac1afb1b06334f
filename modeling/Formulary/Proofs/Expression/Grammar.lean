import Formulary.Expression.Operator

/-!
# The grammar of expressions

Which sequences of lexemes are expressions, and which expression each of them stands for, said without
the reader. The grammar is **stratified**: an expression is a chain of the loosest level, a chain of a
level joins operands by the operators of that level, and the operands of a level are the chains of the
next tighter one. Below the tightest level come operands with signs in front of them, and the operands
themselves (`Phrase`).

Operators are gone in the expression that is derived: `Joins` says what the binary ones stand for, and
the rules for signs say the same of `-` and `!`. Chains are derived from the left, so operators of one
level group to the left.

`Derives` counts nesting: `Derives p n ts e` allows for `n` levels of calls, of parentheses and of the
signs `-` and `!` around any operand. No sequence of lexemes needs more levels than it has lexemes
(`Derives.of_length`), so `Spells`, which asks for no bound, is the grammar itself.
-/

namespace Formulary

/-- What a binary operator of a level stands for, with its operands in the order in which they are
written. -/
inductive Joins : Level → Symbol → Expression → Expression → Expression → Prop where
  | or (a b : Expression) : Joins .disjunction .or a b (.call "OR" [a, b])
  | and (a b : Expression) : Joins .conjunction .and a b (.call "AND" [a, b])
  | equal (a b : Expression) : Joins .comparison .equal a b (.call "EQUALS" [a, b])
  | notEqual (a b : Expression) :
    Joins .comparison .notEqual a b (.call "NOT" [.call "EQUALS" [a, b]])
  | lessThan (a b : Expression) : Joins .comparison .lessThan a b (.call "LESS_THAN" [a, b])
  | lessEqual (a b : Expression) :
    Joins .comparison .lessEqual a b (.call "NOT" [.call "GREATER_THAN" [a, b]])
  | greaterThan (a b : Expression) :
    Joins .comparison .greaterThan a b (.call "GREATER_THAN" [a, b])
  | greaterEqual (a b : Expression) :
    Joins .comparison .greaterEqual a b (.call "NOT" [.call "LESS_THAN" [a, b]])
  | plus (a b : Expression) : Joins .sum .plus a b (.call "ADD" [a, b])
  | minus (a b : Expression) : Joins .sum .minus a b (.call "SUBTRACT" [a, b])
  | star (a b : Expression) : Joins .product .star a b (.call "MULTIPLY" [a, b])
  | slash (a b : Expression) : Joins .product .slash a b (.call "DIVIDE" [a, b])

/-- The table of operators that the reader uses is this one. -/
theorem joins_iff {level : Level} {s : Symbol} {a b e : Expression} :
    Joins level s a b e ↔ ∃ join, level.join? s = some join ∧ join a b = e := by
  constructor
  · rintro (_ | _ | _ | _ | _ | _ | _ | _ | _ | _ | _ | _) <;> exact ⟨_, rfl, rfl⟩
  · rintro ⟨join, hjoin, rfl⟩
    cases level <;> cases s <;> first | contradiction | (cases hjoin; constructor)

/-- A part of an expression. -/
inductive Phrase where
  /-- Operands joined by the operators of a level. -/
  | chain (level : Level)
  /-- An operand with signs in front of it. -/
  | signed
  /-- A literal, a variable, a call, or an expression in parentheses. -/
  | primary

/-- What the operators of a level join. -/
def Level.operand : Level → Phrase
  | .disjunction => .chain .conjunction
  | .conjunction => .chain .comparison
  | .comparison => .chain .sum
  | .sum => .chain .product
  | .product => .signed

/-- Sequences with a comma between each two of them. -/
def commaSeparated : List (List Lexeme) → List Lexeme := List.intercalate [.symbol .comma]

@[simp] theorem commaSeparated_nil : commaSeparated [] = [] := rfl

@[simp] theorem commaSeparated_singleton (ts : List Lexeme) : commaSeparated [ts] = ts := by
  simp [commaSeparated]

@[simp] theorem commaSeparated_cons_cons (ts us : List Lexeme) (rest : List (List Lexeme)) :
    commaSeparated (ts :: us :: rest) = ts ++ .symbol .comma :: commaSeparated (us :: rest) := by
  simp [commaSeparated]

theorem sublist_commaSeparated {ts : List Lexeme} {tss : List (List Lexeme)} (h : ts ∈ tss) :
    ts.Sublist (commaSeparated tss) := by
  induction tss with
  | nil => simp at h
  | cons us rest ih =>
    cases rest with
    | nil =>
      obtain rfl := List.mem_singleton.mp h
      simp
    | cons vs rest =>
      rw [commaSeparated_cons_cons]
      rcases List.mem_cons.mp h with rfl | hrest
      · exact List.sublist_append_left _ _
      · exact (ih hrest).trans ((List.sublist_cons_self _ _).trans (List.sublist_append_right _ _))

/-- What holds of nothing, and of any two parts that it holds of with a comma between them, holds of all
that is separated by commas. -/
theorem commaSeparated_induction {P : List Lexeme → Prop} (hnil : P [])
    (hcomma : ∀ ts us, P ts → P us → P (ts ++ .symbol .comma :: us)) {tss : List (List Lexeme)}
    (h : ∀ ts ∈ tss, P ts) : P (commaSeparated tss) := by
  induction tss with
  | nil => exact hnil
  | cons ts rest ih =>
    obtain ⟨hts, hrest⟩ := List.forall_mem_cons.mp h
    cases rest with
    | nil => rwa [commaSeparated_singleton]
    | cons us rest =>
      rw [commaSeparated_cons_cons]
      exact hcomma ts _ hts (ih hrest)

/-- The lexemes are a part of an expression and stand for `e`, with at most so many levels of
nesting. -/
inductive Derives : Phrase → Nat → List Lexeme → Expression → Prop where
  /-- A single operand is a chain. -/
  | operand {level : Level} {n : Nat} {ts : List Lexeme} {e : Expression}
    (h : Derives level.operand n ts e) : Derives (.chain level) n ts e
  /-- A chain goes on with an operator and one more operand. -/
  | join {level : Level} {s : Symbol} {n : Nat} {ts us : List Lexeme} {a b e : Expression}
    (ha : Derives (.chain level) n ts a) (hb : Derives level.operand n us b)
    (hjoin : Joins level s a b e) : Derives (.chain level) n (ts ++ .symbol s :: us) e
  /-- There may be no sign. -/
  | unsigned {n : Nat} {ts : List Lexeme} {e : Expression} (h : Derives .primary n ts e) :
    Derives .signed n ts e
  /-- A minus changes the sign of a number. -/
  | negativeNumber {n : Nat} {ts : List Lexeme} {d : Decimal}
    (h : Derives .signed n ts (.literal (.number d))) :
    Derives .signed (n + 1) (.symbol .minus :: ts) (.literal (.number (-d)))
  /-- A minus subtracts anything else from zero. -/
  | minus {n : Nat} {ts : List Lexeme} {e : Expression} (h : Derives .signed n ts e)
    (hnumber : ∀ d, e ≠ .literal (.number d)) :
    Derives .signed (n + 1) (.symbol .minus :: ts)
      (.call "SUBTRACT" [.literal (.number .zero), e])
  /-- A plus means nothing. -/
  | plus {n : Nat} {ts : List Lexeme} {e : Expression} (h : Derives .signed n ts e) :
    Derives .signed n (.symbol .plus :: ts) e
  /-- An exclamation mark negates. -/
  | bang {n : Nat} {ts : List Lexeme} {e : Expression} (h : Derives .signed n ts e) :
    Derives .signed (n + 1) (.symbol .bang :: ts) (.call "NOT" [e])
  | literal (n : Nat) (v : Value) : Derives .primary n [.literal v] (.literal v)
  | var (n : Nat) (name : String) : Derives .primary n [.var name] (.var name)
  /-- A bare name is a variable. -/
  | bareName (n : Nat) (name : String) : Derives .primary n [.name name] (.var name)
  /-- A name with arguments is a call; the case of its letters does not matter. -/
  | call {n : Nat} (name : String) (arguments : List (List Lexeme × Expression))
    (h : ∀ a ∈ arguments, Derives (.chain .disjunction) n a.1 a.2) :
    Derives .primary (n + 1)
      (.name name :: .symbol .leftParen ::
        (commaSeparated (arguments.map (·.1)) ++ [.symbol .rightParen]))
      (.call (Text.upperString name) (arguments.map (·.2)))
  /-- Parentheses leave no trace. -/
  | parentheses {n : Nat} {ts : List Lexeme} {e : Expression}
    (h : Derives (.chain .disjunction) n ts e) :
    Derives .primary (n + 1) (.symbol .leftParen :: (ts ++ [.symbol .rightParen])) e

/-- The lexemes are an expression and stand for `e`. -/
def Spells (ts : List Lexeme) (e : Expression) : Prop := ∃ n, Derives (.chain .disjunction) n ts e

namespace Derives

variable {p : Phrase} {n m : Nat} {ts : List Lexeme} {e : Expression}

/-! ### Levels of nesting -/

theorem succ (h : Derives p n ts e) : Derives p (n + 1) ts e := by
  induction h with
  | operand _ ih => exact .operand ih
  | join _ _ hjoin iha ihb => exact .join iha ihb hjoin
  | unsigned _ ih => exact .unsigned ih
  | negativeNumber _ ih => exact .negativeNumber ih
  | minus _ hnumber ih => exact .minus ih hnumber
  | plus _ ih => exact .plus ih
  | bang _ ih => exact .bang ih
  | literal n v => exact .literal (n + 1) v
  | var n name => exact .var (n + 1) name
  | bareName n name => exact .bareName (n + 1) name
  | call name arguments _ ih => exact .call name arguments ih
  | parentheses _ ih => exact .parentheses ih

/-- More levels may be allowed for than are needed. -/
theorem mono (h : Derives p n ts e) (hnm : n ≤ m) : Derives p m ts e := by
  induction hnm with
  | refl => exact h
  | step _ ih => exact ih.succ

/-- No more levels are needed than there are lexemes. -/
theorem of_length (h : Derives p n ts e) : Derives p ts.length ts e := by
  induction h with
  | operand _ ih => exact .operand ih
  | @join _ _ _ ts us _ _ _ _ _ hjoin iha ihb =>
    refine .join (iha.mono ?_) (ihb.mono ?_) hjoin
    · simp
    · simp only [List.length_append, List.length_cons]
      omega
  | unsigned _ ih => exact .unsigned ih
  | negativeNumber _ ih => exact .negativeNumber ih
  | minus _ hnumber ih => exact .minus ih hnumber
  -- of the signs a plus alone takes no level, and has one to spare for its lexeme
  | plus _ ih => exact .plus (ih.mono (Nat.le_succ _))
  | bang _ ih => exact .bang ih
  | literal _ v => exact .literal _ v
  | var _ name => exact .var _ name
  | bareName _ name => exact .bareName _ name
  | call name arguments _ ih =>
    refine .call name arguments fun a ha => (ih a ha).mono ?_
    -- an argument has no more lexemes than all of them with their commas, and the name pays for the level
    have hlength : a.1.length ≤ (commaSeparated (arguments.map (·.1))).length :=
      (sublist_commaSeparated (List.mem_map_of_mem ha)).length_le
    change _ ≤ (commaSeparated (arguments.map (·.1)) ++ [Lexeme.symbol .rightParen]).length + 1
    rw [List.length_append]
    omega
  | parentheses _ ih => exact .parentheses (ih.mono (by simp))

/-! ### Operands -/

/-- A single operand is a chain of any level. -/
theorem chain_of_primary (h : Derives .primary n ts e) (level : Level) :
    Derives (.chain level) n ts e := by
  have hproduct : Derives (.chain .product) n ts e := .operand (.unsigned h)
  cases level with
  | product => exact hproduct
  | sum => exact .operand hproduct
  | comparison => exact .operand (.operand hproduct)
  | conjunction => exact .operand (.operand (.operand hproduct))
  | disjunction => exact .operand (.operand (.operand (.operand hproduct)))

/-! ### The first lexeme -/

/-- An expression starts with some lexeme, and not with a closing parenthesis. -/
theorem exists_cons (h : Derives p n ts e) :
    ∃ first rest, ts = first :: rest ∧ first ≠ .symbol .rightParen := by
  induction h with
  | operand _ ih => exact ih
  | join _ _ _ iha _ =>
    obtain ⟨first, rest, rfl, hfirst⟩ := iha
    exact ⟨first, _, rfl, hfirst⟩
  | unsigned _ ih => exact ih
  | _ => exact ⟨_, _, rfl, by simp⟩

/-- Nor do arguments start with a closing parenthesis, if there are any. -/
theorem exists_cons_of_arguments {arguments : List (List Lexeme × Expression)}
    (h : ∀ a ∈ arguments, Derives p n a.1 a.2) (hne : arguments ≠ []) :
    ∃ first rest, commaSeparated (arguments.map (·.1)) = first :: rest ∧
      first ≠ .symbol .rightParen := by
  obtain ⟨a, others, rfl⟩ := List.exists_cons_of_ne_nil hne
  obtain ⟨first, rest, hts, hfirst⟩ := (h a List.mem_cons_self).exists_cons
  cases others with
  | nil =>
    refine ⟨first, rest, ?_, hfirst⟩
    rw [List.map_singleton, commaSeparated_singleton, hts]
  | cons second others =>
    rw [List.map_cons, List.map_cons, commaSeparated_cons_cons, hts, List.cons_append]
    exact ⟨first, _, rfl, hfirst⟩

end Derives

end Formulary
