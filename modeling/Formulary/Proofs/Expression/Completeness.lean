import Formulary.Proofs.Expression.Soundness

/-!
# What is derived is read

The reader finds every expression that the grammar derives, and derives it in the only way there is
(`Expression.ofLexemes_eq_ok_iff`, `Spells.unique`). All that can keep it from one is the nesting: what needs
more levels than are allowed is refused for that reason and no other (`Expression.ofLexemes_eq_error`).

A part is read up to a place that does not go on with it. `Stops` says what may not stand there: behind a
chain of a level no operator of a tighter level, and nowhere an opening parenthesis, which would make a name
before it a call. An operator of the level itself may stand there; the reader then goes on with the chain,
as the derivation does when it is seen from the left (`Rules.resume`).
-/

namespace Formulary

namespace Splits

variable {input rest : List Located} {ts : List Lexeme}

theorem length (h : Splits input ts rest) : input.length = ts.length + rest.length := by
  induction h with
  | nil rest => simp
  | cons t position _ ih =>
    rw [List.length_cons, List.length_cons, ih]
    omega

/-- The rest is shorter behind a part of an expression. -/
theorem shorter {p : Phrase} {n : Nat} {e : Expression} (h : Splits input ts rest)
    (hderives : Derives p n ts e) : rest.length < input.length := by
  obtain ⟨first, others, rfl, _⟩ := hderives.exists_cons
  rw [h.length, List.length_cons]
  omega

/-- The rest is shorter behind arguments, of which there is at least one. -/
theorem shorter_of_arguments {p : Phrase} {n : Nat} {arguments : List (List Lexeme × Expression)}
    (h : Splits input (commaSeparated (arguments.map (·.1))) rest)
    (hderives : ∀ a ∈ arguments, Derives p n a.1 a.2) (hne : arguments ≠ []) :
    rest.length < input.length := by
  obtain ⟨first, others, hfirst, _⟩ := Derives.exists_cons_of_arguments hderives hne
  rw [h.length, hfirst, List.length_cons]
  omega

end Splits

namespace Expression

open Lexemes

namespace Rules

variable {r : Rules} {level : Level} {depth n : Nat} {input rest : List Located} {α β : Type}

/-! ### Up to the nesting allowed -/

/-- An outcome is the one stated, or it is the fault of nesting too deep where more levels are needed
than are left. -/
def UnlessTooDeep (r : Rules) (n depth : Nat) (outcome expected : Except Fault α) : Prop :=
  outcome = expected ∨ r.maxDepth < n + depth ∧ outcome = .error (.nestingTooDeep r.maxDepth)

namespace UnlessTooDeep

theorem bind {first : Except Fault α} {a : α} {next : α → Except Fault β} {expected : Except Fault β}
    (hfirst : r.UnlessTooDeep n depth first (.ok a))
    (hnext : r.UnlessTooDeep n depth (next a) expected) :
    r.UnlessTooDeep n depth (first >>= next) expected := by
  rcases hfirst with rfl | ⟨hdeep, rfl⟩
  · exact hnext
  · exact Or.inr ⟨hdeep, rfl⟩

theorem trans {first second third : Except Fault α} (h : r.UnlessTooDeep n depth first second)
    (h' : r.UnlessTooDeep n depth second third) : r.UnlessTooDeep n depth first third := by
  rcases h with rfl | hdeep
  · exact h'
  · exact Or.inr hdeep

/-- Going one level deeper takes up one of the levels needed. -/
theorem enter {next : Unit → Except Fault α} {expected : Except Fault α}
    (h : r.UnlessTooDeep n (depth + 1) (next ()) expected) :
    r.UnlessTooDeep (n + 1) depth (r.enter depth >>= next) expected := by
  rw [Rules.enter]
  split
  · exact Or.inr ⟨by omega, rfl⟩
  · rcases h with h | ⟨hdeep, h⟩
    · exact Or.inl h
    · exact Or.inr ⟨by omega, h⟩

end UnlessTooDeep

/-! ### Where a part ends -/

/-- At this place no operator goes on with a chain of a level below `rank`, and no parenthesis with a
name. -/
def Stops (rank : Nat) (rest : List Located) : Prop :=
  ∀ s position others, rest = ⟨.symbol s, position⟩ :: others →
    s ≠ .leftParen ∧ ∀ level : Level, level.rank < rank → level.join? s = none

theorem stops_nil (rank : Nat) : Stops rank [] := by
  rintro s position others h
  exact absurd h (by simp)

theorem stops_cons {rank : Nat} {s : Symbol} (position : Nat) (others : List Located)
    (hparen : s ≠ .leftParen) (hjoin : ∀ level : Level, level.rank < rank → level.join? s = none) :
    Stops rank (⟨.symbol s, position⟩ :: others) := by
  rintro s' position' others' h
  obtain ⟨⟨rfl, rfl⟩, rfl⟩ := h
  exact ⟨hparen, hjoin⟩

theorem Stops.mono {rank rank' : Nat} (h : Stops rank rest) (hle : rank' ≤ rank) :
    Stops rank' rest := by
  intro s position others hrest
  obtain ⟨hparen, hjoin⟩ := h s position others hrest
  exact ⟨hparen, fun level hlevel => hjoin level (Nat.lt_of_lt_of_le hlevel hle)⟩

/-- The operators of a level belong to no other one. -/
theorem stops_operator {s : Symbol} {a b e : Expression} (hjoin : Joins level s a b e)
    (position : Nat) (others : List Located) :
    Stops level.rank (⟨.symbol s, position⟩ :: others) := by
  cases hjoin <;> refine stops_cons position others (by decide) fun level' hlevel => ?_ <;>
    cases level' <;> first | rfl | exact absurd hlevel (by decide)

/-- A comma or a closing parenthesis ends whatever stands before it. -/
theorem stops_separator {s : Symbol} (hs : s = .comma ∨ s = .rightParen) (rank position : Nat)
    (others : List Located) : Stops rank (⟨.symbol s, position⟩ :: others) := by
  rcases hs with rfl | rfl
  · exact stops_cons position others (by decide) fun level _ => by cases level <;> rfl
  · exact stops_cons position others (by decide) fun level _ => by cases level <;> rfl

end Rules

end Expression

/-- How loose the operators are that a part may hold; none but operators of a lower rank end it. -/
def Phrase.rank : Phrase → Nat
  | .chain level => level.rank
  | .signed => 0
  | .primary => 0

namespace Expression

open Lexemes

namespace Rules

variable {r : Rules} {level : Level} {p : Phrase} {depth n : Nat} {input rest : List Located}
  {ts : List Lexeme} {e : Expression}

/-! ### Reading on -/

/-- Reads a part. -/
def read (r : Rules) : Phrase → Nat → (input : List Located) → Except Fault (Taken Expression input)
  | .chain level => r.chain level
  | .signed => r.signed
  | .primary => r.primary

/-- Goes on with a part that has been read up to some place: a chain may be longer than that. -/
def resume (r : Rules) (p : Phrase) (depth : Nat) {input : List Located}
    (t : Taken Expression input) : Except Fault (Taken Expression input) :=
  match p with
  | .chain level => r.chainFrom level depth t
  | .signed => .ok t
  | .primary => .ok t

/-- The lexemes are read as this part and as this expression, wherever the part may end. -/
def Complete (r : Rules) (p : Phrase) (n : Nat) (ts : List Lexeme) (e : Expression) : Prop :=
  ∀ depth input rest (shorter : rest.length < input.length), Splits input ts rest →
    Stops p.rank rest →
      r.UnlessTooDeep n depth (r.read p depth input) (r.resume p depth ⟨e, rest, shorter⟩)

/-- A chain ends where no operator of its level follows. -/
theorem chainFrom_of_stops (shorter : rest.length < input.length) (h : Stops (level.rank + 1) rest) :
    r.chainFrom level depth ⟨e, rest, shorter⟩ = .ok ⟨e, rest, shorter⟩ := by
  rw [chainFrom]
  split
  · next s position others hrest =>
    have hnone := (h s position others hrest).2 level (Nat.lt_succ_self _)
    simp only [hnone]
  · rfl

/-- A chain goes on where an operator of its level follows. -/
theorem chainFrom_of_operator {s : Symbol} {position : Nat} {others : List Located}
    {join : Expression → Expression → Expression} (hjoin : level.join? s = some join)
    (hpass : pass r.ending others = .ok ())
    (shorter : (⟨.symbol s, position⟩ :: others : List Located).length < input.length) :
    r.chainFrom level depth ⟨e, ⟨.symbol s, position⟩ :: others, shorter⟩ =
      r.operand level depth others >>= fun right =>
        r.chainFrom level depth ⟨join e right.value, right.rest,
          Nat.lt_trans right.shorter (Nat.lt_trans (Nat.lt_succ_self _) shorter)⟩ := by
  rw [chainFrom]
  simp only [hjoin, hpass]
  rfl

/-- What is read behind a place that stops the operands of a level is an operand. -/
theorem Complete.operand (h : r.Complete level.operand n ts e) (hsplits : Splits input ts rest)
    (hstops : Stops level.rank rest) (shorter : rest.length < input.length) (depth : Nat) :
    r.UnlessTooDeep n depth (r.operand level depth input) (.ok ⟨e, rest, shorter⟩) := by
  have hread := h depth input rest shorter hsplits
  cases level with
  | product => rw [Rules.operand]; exact hread hstops
  | _ =>
    rw [Rules.operand]
    -- the operand is a chain of the next level, which ends where this one does
    refine (hread (hstops.mono (by decide))).trans (Or.inl ?_)
    exact chainFrom_of_stops shorter hstops

/-- What is read where nothing goes on with a chain is the whole chain. -/
theorem Complete.chain (h : r.Complete (.chain level) n ts e) (hsplits : Splits input ts rest)
    (hstops : Stops (level.rank + 1) rest) (shorter : rest.length < input.length) (depth : Nat) :
    r.UnlessTooDeep n depth (r.chain level depth input) (.ok ⟨e, rest, shorter⟩) := by
  refine (h depth input rest shorter hsplits (hstops.mono (Nat.le_succ _))).trans (Or.inl ?_)
  exact chainFrom_of_stops shorter hstops

/-! ### Reading the parts -/

/-- Where no sign stands the operand itself is read. -/
theorem signed_eq_primary (h : Derives .primary n ts e) (hsplits : Splits input ts rest)
    (depth : Nat) : r.signed depth input = r.primary depth input := by
  refine signed.eq_4 r depth input ?_ ?_ ?_ <;>
  · rintro position others rfl
    cases hsplits <;> cases h

section

variable {position : Nat} (hending : r.ending = .finished position)
include hending

/-- A text that does not end in a fault lets every lexeme pass. -/
theorem pass_of_finished (rest : List Located) : pass r.ending rest = .ok () := by
  rw [hending, Lexemes.pass]
  rintro fault _ h
  exact absurd h (by simp)

theorem complete_join {s : Symbol} {us : List Lexeme} {a b : Expression}
    (hts : Derives (.chain level) n ts a) (hus : Derives level.operand n us b)
    (hjoin : Joins level s a b e) (ha : r.Complete (.chain level) n ts a)
    (hb : r.Complete level.operand n us b) :
    r.Complete (.chain level) n (ts ++ .symbol s :: us) e := by
  intro depth input rest shorter hsplits hstops
  obtain ⟨mid, hmid, hsplits⟩ := hsplits.exists_of_append
  obtain ⟨join, hjoin?, rfl⟩ := joins_iff.mp hjoin
  cases hsplits with
  | @cons tail _ _ _ position hsplits =>
    -- up to the operator the chain is read by the hypothesis, and it goes on behind that
    refine (ha depth input _ (hmid.shorter hts) hmid (stops_operator hjoin position tail)).trans ?_
    change r.UnlessTooDeep n depth (r.chainFrom level depth _) _
    rw [chainFrom_of_operator hjoin? (pass_of_finished hending tail)]
    exact (hb.operand hsplits hstops (hsplits.shorter hus) depth).bind (Or.inl rfl)

/-- A sign is passed, and the operand behind it is read one level deeper. -/
theorem complete_nested {first : Lexeme} (make : Expression → Expression)
    (hsigned : ∀ depth position (others : List Located),
      r.signed depth (⟨first, position⟩ :: others) = do
        pass r.ending others
        r.enter depth
        let t ← r.signed (depth + 1) others
        return (t.map make).widen (Nat.le_succ _))
    (hts : Derives .signed n ts e) (h : r.Complete .signed n ts e) :
    r.Complete .signed (n + 1) (first :: ts) (make e) := by
  intro depth input rest shorter hsplits hstops
  cases hsplits with
  | @cons others _ _ _ position hsplits =>
    change r.UnlessTooDeep (n + 1) depth (r.signed depth _) _
    rw [hsigned, pass_of_finished hending]
    have hread := h (depth + 1) others rest (hsplits.shorter hts) hsplits hstops
    exact .enter (hread.bind (Or.inl rfl))

theorem complete_plus (hts : Derives .signed n ts e) (h : r.Complete .signed n ts e) :
    r.Complete .signed n (.symbol .plus :: ts) e := by
  intro depth input rest shorter hsplits hstops
  cases hsplits with
  | @cons others _ _ _ position hsplits =>
    change r.UnlessTooDeep n depth (r.signed depth _) _
    rw [signed, pass_of_finished hending]
    exact (h depth others rest (hsplits.shorter hts) hsplits hstops).bind (Or.inl rfl)

/-- A single lexeme is read. -/
theorem complete_single {t : Lexeme}
    (hprimary : ∀ depth position (others : List Located), Stops 0 others →
      r.primary depth (⟨t, position⟩ :: others) =
        pass r.ending others >>= fun _ => .ok ⟨e, others, Nat.lt_succ_self _⟩) :
    r.Complete .primary n [t] e := by
  intro depth input rest shorter hsplits hstops
  cases hsplits with
  | @cons others _ _ _ position hsplits =>
    cases hsplits with
    | nil _ =>
      change r.UnlessTooDeep n depth (r.primary depth _) _
      rw [hprimary depth position rest hstops, pass_of_finished hending]
      exact Or.inl rfl

/-- A closing parenthesis is passed where one stands. -/
theorem close_of_splits {α : Type} {mid : List Located} (hsplits : Splits mid [.symbol .rightParen] rest)
    (value : α) (shorter : mid.length < input.length) :
    ∃ shorter' : rest.length < input.length,
      close r.ending (⟨value, mid, shorter⟩ : Taken α input) = .ok ⟨value, rest, shorter'⟩ := by
  cases hsplits with
  | @cons others _ _ _ position hsplits =>
    cases hsplits with
    | nil _ =>
      refine ⟨Nat.lt_trans (Nat.lt_succ_self _) shorter, ?_⟩
      rw [close]
      simp only [pass_of_finished hending]
      rfl

/-- Arguments are read up to the parenthesis behind them. -/
theorem arguments_of_complete {arguments : List (List Lexeme × Expression)}
    (hderives : ∀ a ∈ arguments, Derives (.chain .disjunction) n a.1 a.2)
    (h : ∀ a ∈ arguments, r.Complete (.chain .disjunction) n a.1 a.2) (hne : arguments ≠ [])
    (hsplits : Splits input (commaSeparated (arguments.map (·.1))) rest)
    (hclose : ∃ position others, rest = ⟨.symbol .rightParen, position⟩ :: others)
    (shorter : rest.length < input.length) (depth : Nat) :
    r.UnlessTooDeep n depth (r.arguments depth input) (.ok ⟨arguments.map (·.2), rest, shorter⟩) := by
  obtain ⟨position', others', rfl⟩ := hclose
  -- on the arguments; the first of them is read up to the comma, and the others behind it
  induction arguments generalizing input with
  | nil => exact absurd rfl hne
  | cons first arguments ih =>
    have hfirst := h first List.mem_cons_self
    cases arguments with
    | nil =>
      rw [List.map_singleton, commaSeparated_singleton] at hsplits
      rw [Rules.arguments]
      -- the last one ends where the parenthesis closes
      refine (hfirst.chain hsplits (stops_separator (Or.inr rfl) _ _ _) shorter depth).bind ?_
      exact Or.inl rfl
    | cons second arguments =>
      rw [List.map_cons, List.map_cons, commaSeparated_cons_cons] at hsplits
      obtain ⟨mid, hmid, hsplits⟩ := hsplits.exists_of_append
      cases hsplits with
      | @cons tail _ _ _ position hsplits =>
        have hderives' := fun a ha => hderives a (List.mem_cons_of_mem _ ha)
        have hrest := ih hderives' (fun a ha => h a (List.mem_cons_of_mem _ ha)) (by simp) hsplits
          (hsplits.shorter_of_arguments hderives' (by simp))
        rw [Rules.arguments]
        refine (hfirst.chain hmid (stops_separator (Or.inl rfl) _ _ _)
          (hmid.shorter (hderives first List.mem_cons_self)) depth).bind ?_
        simp only [pass_of_finished hending]
        exact hrest.bind (Or.inl rfl)

/-- Arguments are read with the parenthesis behind them. -/
theorem argumentList_of_complete {arguments : List (List Lexeme × Expression)}
    (hderives : ∀ a ∈ arguments, Derives (.chain .disjunction) n a.1 a.2)
    (h : ∀ a ∈ arguments, r.Complete (.chain .disjunction) n a.1 a.2)
    (hsplits : Splits input (commaSeparated (arguments.map (·.1)) ++ [.symbol .rightParen]) rest)
    (depth : Nat) :
    ∃ shorter : rest.length < input.length,
      r.UnlessTooDeep n depth (r.argumentList depth input) (.ok ⟨arguments.map (·.2), rest, shorter⟩) := by
  obtain ⟨mid, hmid, hclose⟩ := hsplits.exists_of_append
  -- without arguments the parenthesis closes at once
  by_cases hne : arguments = []
  · subst hne
    cases hmid
    cases hclose with
    | @cons others _ _ _ position hclose =>
      cases hclose with
      | nil _ =>
        refine ⟨Nat.lt_succ_self _, ?_⟩
        rw [argumentList, pass_of_finished hending]
        exact Or.inl rfl
  · -- the arguments end in front of the parenthesis, which `close` passes
    have hparen : ∃ position others, mid = ⟨.symbol .rightParen, position⟩ :: others := by
      cases hclose
      exact ⟨_, _, rfl⟩
    have hshorter := hmid.shorter_of_arguments hderives hne
    have hread := arguments_of_complete hending hderives h hne hmid hparen hshorter depth
    obtain ⟨shorter', hclose⟩ := close_of_splits hending hclose (arguments.map (·.2)) hshorter
    refine ⟨shorter', ?_⟩
    rw [argumentList.eq_2]
    · exact hread.bind (Or.inl hclose)
    · -- the first argument does not start with the parenthesis
      rintro position others rfl
      obtain ⟨first, rest', hfirst, hparen⟩ := Derives.exists_cons_of_arguments hderives hne
      rw [hfirst] at hmid
      cases hmid
      exact hparen rfl

theorem complete_call (name : String) (arguments : List (List Lexeme × Expression))
    (hderives : ∀ a ∈ arguments, Derives (.chain .disjunction) n a.1 a.2)
    (h : ∀ a ∈ arguments, r.Complete (.chain .disjunction) n a.1 a.2) :
    r.Complete .primary (n + 1)
      (.name name :: .symbol .leftParen ::
        (commaSeparated (arguments.map (·.1)) ++ [.symbol .rightParen]))
      (callOf name (arguments.map (·.2))) := by
  intro depth input rest shorter hsplits _
  -- the name and the parenthesis, and then the list of arguments
  cases hsplits with
  | @cons _ _ _ _ position hsplits =>
    cases hsplits with
    | @cons others _ _ _ position' hsplits =>
      change r.UnlessTooDeep (n + 1) depth (r.primary depth _) _
      rw [primary, pass_of_finished hending]
      obtain ⟨shorter', hread⟩ := argumentList_of_complete hending hderives h hsplits (depth + 1)
      exact .enter (hread.bind (Or.inl rfl))

theorem complete_parentheses (hts : Derives (.chain .disjunction) n ts e)
    (h : r.Complete (.chain .disjunction) n ts e) :
    r.Complete .primary (n + 1) (.symbol .leftParen :: (ts ++ [.symbol .rightParen])) e := by
  intro depth input rest shorter hsplits _
  cases hsplits with
  | @cons others _ _ _ position hsplits =>
    obtain ⟨mid, hmid, hclose⟩ := hsplits.exists_of_append
    -- the closing parenthesis ends the chain
    have hstops : Stops (Level.disjunction.rank + 1) mid := by
      cases hclose with
      | @cons _ _ _ _ _ _ => exact stops_separator (Or.inr rfl) _ _ _
    have hread := h.chain hmid hstops (hmid.shorter hts) (depth + 1)
    obtain ⟨shorter', hclose⟩ := close_of_splits hending hclose e (hmid.shorter hts)
    change r.UnlessTooDeep (n + 1) depth (r.primary depth _) _
    rw [primary, pass_of_finished hending]
    refine .enter (hread.bind (Or.inl ?_))
    rw [hclose]
    rfl

end

/-- **What is derived is read**, as long as the nesting allows for it. -/
theorem complete {position : Nat} (hending : r.ending = .finished position)
    (h : Derives p n ts e) : r.Complete p n ts e := by
  induction h with
  | @operand level n ts e hts ih =>
    -- a single operand is read, and then the chain goes on if it can
    intro depth input rest shorter hsplits hstops
    change r.UnlessTooDeep n depth (r.chain level depth input) _
    rw [chain]
    exact (ih.operand hsplits hstops shorter depth).bind (Or.inl rfl)
  | join hts hus hjoin iha ihb => exact complete_join hending hts hus hjoin iha ihb
  | @unsigned n ts e hts ih =>
    intro depth input rest shorter hsplits hstops
    change r.UnlessTooDeep n depth (r.signed depth input) _
    rw [signed_eq_primary hts hsplits]
    exact ih depth input rest shorter hsplits hstops
  | @negativeNumber n ts d hts ih =>
    exact complete_nested hending negative (fun depth position others => by rw [signed]) hts ih
  | @minus n ts e hts hnumber ih =>
    -- what is behind the sign is no number, so the sign is read as a subtraction
    have hnegative : e.negative = .call "SUBTRACT" [.literal (.number .zero), e] := by
      rw [negative]
      exact hnumber
    rw [← hnegative]
    exact complete_nested hending negative (fun depth position others => by rw [signed]) hts ih
  | plus hts ih => exact complete_plus hending hts ih
  | bang hts ih =>
    exact complete_nested hending not (fun depth position others => by rw [signed]) hts ih
  | literal n v => exact complete_single hending fun depth position others _ => by rw [primary]; rfl
  | var n name => exact complete_single hending fun depth position others _ => by rw [primary]; rfl
  | bareName n name =>
    -- no parenthesis stands behind the name, since that would not stop an operand
    refine complete_single hending fun depth position others hstops => ?_
    rw [primary.eq_4]
    · rfl
    · rintro position' others' rfl
      exact (hstops _ _ _ rfl).1 rfl
  | call name arguments hderives ih => exact complete_call hending name arguments hderives ih
  | parentheses hts ih => exact complete_parentheses hending hts ih

end Rules

/-! ### Whole expressions -/

variable {maxDepth position : Nat} {items : List Located} {n : Nat} {e : Expression}

/-- Lexemes that derive an expression are read as that, unless the nesting is too deep. -/
theorem ofLexemes_of_derives (h : Derives (.chain .disjunction) n (items.map Located.lexeme) e) :
    ofLexemes maxDepth ⟨items, .finished position⟩ = .ok e ∨
      maxDepth < n ∧ ofLexemes maxDepth ⟨items, .finished position⟩ =
        .error (.nestingTooDeep maxDepth) := by
  have hsplits : Splits items (items.map Located.lexeme) [] := Splits.end_iff.mpr rfl
  -- the induction is `Rules.complete`; all lexemes are taken, so nothing is left that could go on
  have hcomplete : (⟨maxDepth, .finished position⟩ : Rules).Complete _ _ _ _ := Rules.complete rfl h
  have hread := hcomplete.chain hsplits (Rules.stops_nil _) (hsplits.shorter h) 0
  rw [ofLexemes, Rules.pass_of_finished rfl]
  rcases hread with hread | ⟨hdeep, hread⟩
  · exact Or.inl (by rw [ok_bind, hread]; rfl)
  · exact Or.inr ⟨hdeep, by rw [ok_bind, hread]; rfl⟩

/-- **The reader accepts exactly the grammar**, up to the nesting allowed. -/
theorem ofLexemes_eq_ok_iff :
    ofLexemes maxDepth ⟨items, .finished position⟩ = .ok e ↔
      Derives (.chain .disjunction) maxDepth (items.map Located.lexeme) e := by
  constructor
  · intro h
    exact (derives_of_ofLexemes h).1
  · intro h
    rcases ofLexemes_of_derives h with hread | ⟨hdeep, _⟩
    · exact hread
    · exact absurd hdeep (Nat.lt_irrefl maxDepth)

/-- An expression that needs more levels than are allowed is refused for that reason. -/
theorem ofLexemes_eq_error (h : Derives (.chain .disjunction) n (items.map Located.lexeme) e)
    (hdeep : ¬∃ e', Derives (.chain .disjunction) maxDepth (items.map Located.lexeme) e') :
    ofLexemes maxDepth ⟨items, .finished position⟩ = .error (.nestingTooDeep maxDepth) := by
  rcases ofLexemes_of_derives h with hread | ⟨_, hread⟩
  · exact absurd ⟨e, ofLexemes_eq_ok_iff.mp hread⟩ hdeep
  · exact hread

/-- A text is read as an expression if it passes the screen and its lexemes derive the expression. -/
theorem ofText_eq_ok_iff {limits : Limits} {text : String} :
    ofText limits text = .ok e ↔
      Screen.check limits text.toList = .ok () ∧
        ∃ items position, Lexemes.ofChars (Text.trim text.toList) = ⟨items, .finished position⟩ ∧
          Derives (.chain .disjunction) limits.maxDepth (items.map Located.lexeme) e := by
  rw [ofText, ofChars, bind_eq_ok_iff]
  constructor
  · rintro ⟨_, hscreen, hread⟩
    obtain ⟨hderives, position, hending⟩ := derives_of_ofLexemes hread
    exact ⟨hscreen, _, position, by rw [← hending], hderives⟩
  · rintro ⟨hscreen, items, position, hlexemes, hderives⟩
    exact ⟨(), hscreen, by rw [hlexemes, ofLexemes_eq_ok_iff.mpr hderives]⟩

end Expression

/-- **No sequence of lexemes is two expressions.** -/
theorem Spells.unique {ts : List Lexeme} {e e' : Expression} (h : Spells ts e) (h' : Spells ts e') :
    e = e' := by
  obtain ⟨n, h⟩ := h
  obtain ⟨m, h'⟩ := h'
  -- both are what the reader makes of the lexemes, wherever they stand
  have hlexemes : (ts.map (Located.mk · 0)).map Located.lexeme = ts := by
    rw [List.map_map]
    exact List.map_id ts
  have hread : Expression.ofLexemes (max n m) ⟨ts.map (Located.mk · 0), .finished 0⟩ = .ok e :=
    Expression.ofLexemes_eq_ok_iff.mpr (hlexemes.symm ▸ h.mono (Nat.le_max_left n m))
  have hread' : Expression.ofLexemes (max n m) ⟨ts.map (Located.mk · 0), .finished 0⟩ = .ok e' :=
    Expression.ofLexemes_eq_ok_iff.mpr (hlexemes.symm ▸ h'.mono (Nat.le_max_right n m))
  exact Except.ok.inj (hread.symm.trans hread')

namespace Expression

/-- **The grammar of the reader.** With as many levels of nesting allowed as there are lexemes, the reader
makes an expression of all of them exactly if they spell it, and they spell no other one. -/
theorem ofLexemes_eq_ok_iff_spells (maxDepth position : Nat) (items : List Located)
    (hdepth : items.length ≤ maxDepth) :
    (∀ e, ofLexemes maxDepth ⟨items, .finished position⟩ = .ok e ↔
      Spells (items.map Located.lexeme) e) ∧
    ∀ e e', Spells (items.map Located.lexeme) e → Spells (items.map Located.lexeme) e' → e = e' := by
  refine ⟨fun e => ?_, fun e e' h h' => h.unique h'⟩
  rw [ofLexemes_eq_ok_iff]
  constructor
  · intro h
    exact ⟨maxDepth, h⟩
  · rintro ⟨n, h⟩
    refine h.of_length.mono ?_
    rwa [List.length_map]

/-! ### Subtractions and a comparison

Operators of one level group to the left, and `*` binds more tightly than they do. -/

/-- The lexemes of `a - b - 1 * -1 != c`. -/
def mixedItems : List Located :=
  [⟨.name "a", 0⟩, ⟨.symbol .minus, 2⟩, ⟨.name "b", 4⟩, ⟨.symbol .minus, 6⟩,
    ⟨.literal (.number .one), 8⟩, ⟨.symbol .star, 10⟩, ⟨.symbol .minus, 12⟩,
    ⟨.literal (.number .one), 13⟩, ⟨.symbol .notEqual, 15⟩, ⟨.name "c", 18⟩]

/-- What they stand for. -/
def mixed : Expression :=
  .call "NOT" [.call "EQUALS"
    [.call "SUBTRACT"
      [.call "SUBTRACT" [.var "a", .var "b"],
        .call "MULTIPLY" [.literal (.number .one), .literal (.number (-.one))]],
      .var "c"]]

theorem spells_mixed : Spells (mixedItems.map Located.lexeme) mixed := by
  have hvar (name : String) (level : Level) :
      Derives (.chain level) 1 [.name name] (.var name) :=
    (Derives.bareName 1 name).chain_of_primary level
  have hone : Derives .signed 0 [.literal (.number .one)] (.literal (.number .one)) :=
    .unsigned (.literal 0 _)
  have hproduct : Derives (.chain .product) 1 _ _ :=
    .join (.operand hone.succ) (.negativeNumber hone) (.star _ _)
  have hsum := ((hvar "a" .sum).join (hvar "b" .product) (.minus _ _)).join hproduct (.minus _ _)
  have hcomparison : Derives (.chain .comparison) 1 _ _ :=
    .join (.operand hsum) (hvar "c" .sum) (.notEqual _ _)
  exact ⟨1, .operand (.operand hcomparison)⟩

theorem ofLexemes_eq_ok_iff_spells_mixed :
    mixedItems.length ≤ 64 ∧ ofLexemes 64 ⟨mixedItems, .finished 19⟩ = .ok mixed ∧
      ∀ e, Spells (mixedItems.map Located.lexeme) e → e = mixed := by
  have hread := ofLexemes_eq_ok_iff_spells 64 19 mixedItems (by decide)
  exact ⟨by decide, (hread.1 mixed).mpr spells_mixed, fun e he => hread.2 e mixed he spells_mixed⟩

end Expression

end Formulary
