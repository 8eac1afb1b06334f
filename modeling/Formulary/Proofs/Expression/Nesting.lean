import Formulary.Proofs.Expression.Completeness
import Mathlib.Data.List.Basic

/-!
# How deep an expression can be

The limit on nesting counts calls, parentheses and the signs `-` and `!`. Operators between operands are calls
in the expression that is read, and each makes it deeper, but they do not count as nesting, and a chain of
them can be of any length.

So the limit does not bound the depth of expressions. `ofText_depth_le` says what does: the depth is at most
the limit and the **weight** of the operators that stand between operands, the number of calls that these
stand for. Without such operators the limit bounds the depth. No better bound can be had of the limit and that
number (`exists_ofLexemes_depth_eq`), and three summands are deep enough to pass a limit of one
(`depth_threefold`).

A minus or a plus is an operator between operands only if it stands behind one (`Lexeme.endsOperand`).
-/

namespace Formulary

namespace Expression

theorem depth_le_depthOfAll {arguments : List Expression} {e : Expression} (h : e ∈ arguments) :
    e.depth ≤ depthOfAll arguments := by
  induction arguments with
  | nil => simp at h
  | cons first rest ih =>
    rw [depthOfAll]
    rcases List.mem_cons.mp h with rfl | hrest
    · exact Nat.le_max_left _ _
    · exact Nat.le_trans (ih hrest) (Nat.le_max_right _ _)

theorem depthOfAll_le {arguments : List Expression} {n : Nat} (h : ∀ e ∈ arguments, e.depth ≤ n) :
    depthOfAll arguments ≤ n := by
  induction arguments with
  | nil => exact Nat.zero_le n
  | cons first rest ih =>
    obtain ⟨hfirst, hrest⟩ := List.forall_mem_cons.mp h
    exact Nat.max_le.mpr ⟨hfirst, ih hrest⟩

end Expression

/-! ### The weight of operators -/

/-- The number of calls that a symbol stands for if it joins two operands. -/
def Symbol.weight : Symbol → Nat
  | .or | .and | .equal | .lessThan | .greaterThan | .plus | .minus | .star | .slash => 1
  | .notEqual | .lessEqual | .greaterEqual => 2
  | .bang | .comma | .leftParen | .rightParen => 0

/-- Whether an operand can end with a lexeme. -/
def Lexeme.endsOperand : Lexeme → Bool
  | .literal _ | .name _ | .var _ | .symbol .rightParen => true
  | .symbol _ => false

/-- The number of calls that a lexeme behind an operand stands for. -/
def Lexeme.weight : Lexeme → Nat
  | .symbol s => s.weight
  | _ => 0

/-- The number of calls that the operators between operands stand for; `behind` says whether the lexemes stand
behind an operand themselves. -/
def operatorWeight (behind : Bool) : List Lexeme → Nat
  | [] => 0
  | t :: rest => (if behind then t.weight else 0) + operatorWeight t.endsOperand rest

theorem operatorWeight_le_append (behind : Bool) (ts us : List Lexeme) :
    operatorWeight behind ts ≤ operatorWeight behind (ts ++ us) := by
  induction ts generalizing behind with
  | nil => exact Nat.zero_le _
  | cons t ts ih => exact Nat.add_le_add_left (ih _) _

/-- An operator joins two operands in as many calls as it has weight. -/
theorem Joins.depth_eq {level : Level} {s : Symbol} {a b e : Expression} (h : Joins level s a b e) :
    e.depth = s.weight + max a.depth b.depth := by
  cases h <;> simp only [Expression.depth, Expression.depthOfAll, Symbol.weight] <;> omega

/-- No operand ends with an operator. -/
theorem Joins.endsOperand_eq {level : Level} {s : Symbol} {a b e : Expression}
    (h : Joins level s a b e) : (Lexeme.symbol s).endsOperand = false := by
  cases h <;> rfl

/-- What stands behind an operand is weighed as standing there. -/
def EndsOperand (ts : List Lexeme) : Prop :=
  ∀ behind rest, operatorWeight behind (ts ++ rest) =
    operatorWeight behind ts + operatorWeight true rest

namespace EndsOperand

variable {t : Lexeme} {ts us : List Lexeme}

theorem single (h : t.endsOperand = true) : EndsOperand [t] := by
  intro behind rest
  simp [operatorWeight, h]

theorem cons (h : EndsOperand ts) (t : Lexeme) : EndsOperand (t :: ts) := by
  intro behind rest
  rw [List.cons_append, operatorWeight, operatorWeight, h, Nat.add_assoc]

theorem append (h : EndsOperand us) (ts : List Lexeme) : EndsOperand (ts ++ us) := by
  induction ts with
  | nil => exact h
  | cons t ts ih => exact ih.cons t

end EndsOperand

variable {p : Phrase} {n : Nat} {ts : List Lexeme} {e : Expression}

/-- Every part of an expression ends as an operand does. -/
theorem Derives.endsOperand (h : Derives p n ts e) : EndsOperand ts := by
  induction h with
  | operand _ ih => exact ih
  | join _ _ _ _ ih => exact (ih.cons _).append _
  | unsigned _ ih => exact ih
  | negativeNumber _ ih => exact ih.cons _
  | minus _ _ ih => exact ih.cons _
  | plus _ ih => exact ih.cons _
  | bang _ ih => exact ih.cons _
  | literal _ _ => exact .single rfl
  | var _ _ => exact .single rfl
  | bareName _ _ => exact .single rfl
  | call _ _ _ _ => exact (((EndsOperand.single rfl).append _).cons _).cons _
  | parentheses _ _ => exact ((EndsOperand.single rfl).append _).cons _

/-- Each argument weighs no more than all of them. -/
theorem operatorWeight_le_commaSeparated {tss : List (List Lexeme)} (h : ∀ ts ∈ tss, EndsOperand ts)
    (hmem : ts ∈ tss) : operatorWeight false ts ≤ operatorWeight false (commaSeparated tss) := by
  induction tss with
  | nil => simp at hmem
  | cons us rest ih =>
    obtain ⟨hus, hrest⟩ := List.forall_mem_cons.mp h
    cases rest with
    | nil =>
      obtain rfl := List.mem_singleton.mp hmem
      exact Nat.le_of_eq (congrArg _ (commaSeparated_singleton ts).symm)
    | cons vs rest =>
      -- a comma weighs nothing, and no operand ends with it: behind it the next argument begins anew
      have hcomma : operatorWeight true (.symbol .comma :: commaSeparated (vs :: rest)) =
          operatorWeight false (commaSeparated (vs :: rest)) := Nat.zero_add _
      rw [commaSeparated_cons_cons, hus, hcomma]
      rcases List.mem_cons.mp hmem with rfl | hmem
      · exact Nat.le_add_right _ _
      · exact Nat.le_trans (ih hrest hmem) (Nat.le_add_left _ _)

/-! ### The bound -/

/-- **Nesting and operators bound the depth.** -/
theorem Derives.depth_le_add (h : Derives p n ts e) : e.depth ≤ n + operatorWeight false ts := by
  induction h with
  | operand _ ih => exact ih
  | @join _ s n ts us _ _ _ ha _ hjoin iha ihb =>
    -- the operator stands behind an operand, so its weight counts: the calls that it puts around both
    have hoperator : operatorWeight true (.symbol s :: us) = s.weight + operatorWeight false us := by
      rw [operatorWeight, hjoin.endsOperand_eq]
      rfl
    rw [hjoin.depth_eq, ha.endsOperand, hoperator]
    omega
  | unsigned _ ih => exact ih
  | negativeNumber _ _ => exact Nat.zero_le _
  | @minus n ts e _ _ ih =>
    -- in front of an operand a sign weighs nothing, but it is one level of nesting
    have hsign : operatorWeight false (.symbol .minus :: ts) = operatorWeight false ts := Nat.zero_add _
    rw [hsign]
    simp only [Expression.depth, Expression.depthOfAll]
    omega
  | @plus n ts e _ ih =>
    have hsign : operatorWeight false (.symbol .plus :: ts) = operatorWeight false ts := Nat.zero_add _
    rwa [hsign]
  | @bang n ts e _ ih =>
    have hsign : operatorWeight false (.symbol .bang :: ts) = operatorWeight false ts := Nat.zero_add _
    rw [hsign]
    simp only [Expression.depth, Expression.depthOfAll]
    omega
  | literal _ _ => exact Nat.zero_le _
  | var _ _ => exact Nat.zero_le _
  | bareName _ _ => exact Nat.zero_le _
  | @call n name arguments hderives ih =>
    -- the deepest argument decides, and its operators are among those of the call
    have hends : ∀ ts ∈ arguments.map (·.1), EndsOperand ts := by
      intro ts hts
      obtain ⟨a, ha, rfl⟩ := List.mem_map.mp hts
      exact (hderives a ha).endsOperand
    have harguments : Expression.depthOfAll (arguments.map (·.2)) ≤
        n + operatorWeight false (commaSeparated (arguments.map (·.1))) := by
      refine Expression.depthOfAll_le fun e he => ?_
      obtain ⟨a, ha, rfl⟩ := List.mem_map.mp he
      have hweight := operatorWeight_le_commaSeparated hends (List.mem_map_of_mem ha)
      exact Nat.le_trans (ih a ha) (Nat.add_le_add_left hweight n)
    have hcall : operatorWeight false (commaSeparated (arguments.map (·.1))) ≤
        operatorWeight false (.name name :: .symbol .leftParen ::
          (commaSeparated (arguments.map (·.1)) ++ [.symbol .rightParen])) := by
      -- the name and the parenthesis behind it weigh nothing
      have hfront : operatorWeight false (.name name :: .symbol .leftParen ::
          (commaSeparated (arguments.map (·.1)) ++ [.symbol .rightParen])) =
          operatorWeight false (commaSeparated (arguments.map (·.1)) ++ [.symbol .rightParen]) := by
        simp [operatorWeight, Lexeme.endsOperand, Lexeme.weight, Symbol.weight]
      rw [hfront]
      exact operatorWeight_le_append _ _ _
    rw [Expression.depth]
    omega
  | @parentheses n ts e h ih =>
    -- the parentheses are no call: they take a level of nesting and make nothing deeper
    have hparentheses : operatorWeight false (.symbol .leftParen :: (ts ++ [.symbol .rightParen])) =
        operatorWeight false ts := by
      have hfront : operatorWeight false (.symbol .leftParen :: (ts ++ [.symbol .rightParen])) =
          operatorWeight false (ts ++ [.symbol .rightParen]) := Nat.zero_add _
      rw [hfront, h.endsOperand]
      rfl
    rw [hparentheses]
    omega

namespace Expression

/-- The number of calls that the operators between operands of a text stand for. -/
def operatorWeight (text : String) : Nat :=
  Formulary.operatorWeight false
    ((Lexemes.ofChars (Text.trim text.toList)).items.map Located.lexeme)

/-- **An expression is at most as deep as nesting is allowed and the operators of its text weigh.** Where no
operator stands between operands, the limit on nesting is a bound. -/
theorem ofText_depth_le (limits : Limits) (text : String) (e : Expression)
    (h : ofText limits text = .ok e) :
    e.depth ≤ limits.maxDepth + operatorWeight text := by
  obtain ⟨-, items, position, hlexemes, hderives⟩ := ofText_eq_ok_iff.mp h
  rw [operatorWeight, hlexemes]
  exact hderives.depth_le_add

theorem derives_one (n : Nat) (level : Level) :
    Derives (.chain level) n [.literal (.number .one)] (.literal (.number .one)) :=
  (Derives.literal n _).chain_of_primary level

/-- The expression of `!done + 1 != 1`. -/
def unlike : Expression :=
  .call "NOT" [.call "EQUALS"
    [.call "ADD" [.call "NOT" [.var "done"], .literal (.number .one)], .literal (.number .one)]]

theorem ofText_unlike : ofText ⟨8192, 1⟩ "!done + 1 != 1" = .ok unlike := by
  have hlexemes : Lexemes.ofChars (Text.trim "!done + 1 != 1".toList) =
      ⟨[⟨.symbol .bang, 0⟩, ⟨.name "done", 1⟩, ⟨.symbol .plus, 6⟩, ⟨.literal (.number .one), 8⟩,
        ⟨.symbol .notEqual, 10⟩, ⟨.literal (.number .one), 13⟩], .finished 14⟩ := by
    decide +kernel
  have hsum : Derives (.chain .sum) 1 _ _ :=
    .join (.operand (.operand (.bang (.unsigned (.bareName 0 "done"))))) (derives_one 1 .product)
      (.plus _ _)
  have hcomparison : Derives (.chain .comparison) 1 _ _ :=
    .join (.operand hsum) (derives_one 1 .sum) (.notEqual _ _)
  exact ofText_eq_ok_iff.mpr
    ⟨by decide +kernel, _, _, hlexemes, .operand (.operand hcomparison)⟩

/-- With a single level of nesting, `!done + 1 != 1` is as deep as it can be. -/
theorem ofText_depth_le_unlike :
    ofText ⟨8192, 1⟩ "!done + 1 != 1" = .ok unlike ∧ operatorWeight "!done + 1 != 1" = 3 ∧
      unlike.depth ≤ 1 + operatorWeight "!done + 1 != 1" :=
  ⟨ofText_unlike, by decide +kernel, ofText_depth_le ⟨8192, 1⟩ _ unlike ofText_unlike⟩

/-- The expression of `1 + 1 + 1`. -/
def threefold : Expression :=
  .call "ADD" [.call "ADD" [.literal (.number .one), .literal (.number .one)],
    .literal (.number .one)]

/-- **The limit on nesting is no bound.** Three summands are read where a single level of nesting is allowed,
and are two calls deep. -/
theorem depth_threefold :
    ofText ⟨8192, 1⟩ "1 + 1 + 1" = .ok threefold ∧ ¬threefold.depth ≤ 1 := by
  have hlexemes : Lexemes.ofChars (Text.trim "1 + 1 + 1".toList) =
      ⟨[⟨.literal (.number .one), 0⟩, ⟨.symbol .plus, 2⟩, ⟨.literal (.number .one), 4⟩,
        ⟨.symbol .plus, 6⟩, ⟨.literal (.number .one), 8⟩], .finished 9⟩ := by
    decide +kernel
  have hsum : Derives (.chain .sum) 1 _ _ :=
    .join (.join (derives_one 1 .sum) (derives_one 1 .product) (.plus _ _))
      (derives_one 1 .product) (.plus _ _)
  refine ⟨ofText_eq_ok_iff.mpr ⟨by decide +kernel, _, _, hlexemes, ?_⟩, by decide⟩
  exact .operand (.operand (.operand hsum))

end Expression

/-! ### The bound is met -/

/-- Negations use nesting up. -/
theorem Derives.exists_negations (n : Nat) :
    ∃ ts e, Derives .signed n ts e ∧ operatorWeight false ts = 0 ∧ e.depth = n := by
  induction n with
  | zero => exact ⟨_, _, .unsigned (.literal 0 (.number .one)), rfl, rfl⟩
  | succ n ih =>
    obtain ⟨ts, e, hderives, hweight, hdepth⟩ := ih
    refine ⟨_, _, .bang hderives, ?_, ?_⟩
    · exact (Nat.zero_add _).trans hweight
    · rw [Expression.depth, Expression.depthOfAll, Expression.depthOfAll, hdepth, Nat.max_zero,
        Nat.add_comm]

/-- Sums go on from there. -/
theorem Derives.exists_sums (n weight : Nat) :
    ∃ ts e, Derives (.chain .sum) n ts e ∧ operatorWeight false ts = weight ∧
      e.depth = n + weight := by
  induction weight with
  | zero =>
    obtain ⟨ts, e, hderives, hweight, hdepth⟩ := exists_negations n
    exact ⟨ts, e, .operand (.operand hderives), hweight, hdepth⟩
  | succ weight ih =>
    -- one more summand is one more call around the sum before it
    obtain ⟨ts, e, hderives, hweight, hdepth⟩ := ih
    refine ⟨_, _, .join hderives (Expression.derives_one n .product) (.plus _ _), ?_, ?_⟩
    · rw [hderives.endsOperand, hweight]
      rfl
    · rw [(Joins.plus e _).depth_eq, Expression.depth, Nat.max_zero, hdepth, Symbol.weight]
      omega

/-- **No lesser bound holds** of the nesting allowed and the weight of operators. -/
theorem Expression.exists_ofLexemes_depth_eq (maxDepth weight : Nat) :
    ∃ items position e, ofLexemes maxDepth ⟨items, .finished position⟩ = .ok e ∧
      Formulary.operatorWeight false (items.map Located.lexeme) = weight ∧
      e.depth = maxDepth + weight := by
  obtain ⟨ts, e, hderives, hweight, hdepth⟩ := Derives.exists_sums maxDepth weight
  have hlexemes : (ts.map (Located.mk · 0)).map Located.lexeme = ts := by
    rw [List.map_map]
    exact List.map_id ts
  refine ⟨ts.map (Located.mk · 0), 0, e, ofLexemes_eq_ok_iff.mpr ?_, ?_, hdepth⟩
  · rw [hlexemes]
    exact .operand (.operand (.operand hderives))
  · rw [hlexemes, hweight]

end Formulary
