import Formulary.Expression.Reader
import Formulary.Proofs.Expression.Grammar
import Formulary.Proofs.Outcome

/-!
# What is read is derived

The reader of expressions keeps to the grammar: whatever it reads off the front of its input, the lexemes
that it passes derive (`Rules.sound`, with one statement for each part). When it reads to the
end, the text itself ended there and not in a fault (`Expression.derives_of_ofLexemes`).

`Splits` takes an input apart into the lexemes that a reader has passed and those that are left, and
`Rules.Reads` is what a successful reading of a part comes to. The proofs go through the reader function by
function, on the measure by which it terminates.
-/

namespace Formulary

/-- The input goes on with the lexemes `ts` and then with `rest`. -/
inductive Splits : List Located → List Lexeme → List Located → Prop where
  | nil (rest : List Located) : Splits rest [] rest
  | cons {input rest : List Located} {ts : List Lexeme} (t : Lexeme) (position : Nat)
    (h : Splits input ts rest) : Splits (⟨t, position⟩ :: input) (t :: ts) rest

namespace Splits

variable {input mid rest : List Located} {ts us : List Lexeme}

theorem append (h : Splits input ts mid) (h' : Splits mid us rest) :
    Splits input (ts ++ us) rest := by
  induction h with
  | nil _ => exact h'
  | cons t position _ ih => exact .cons t position (ih h')

/-- A single lexeme. -/
theorem single (t : Lexeme) (position : Nat) (rest : List Located) :
    Splits (⟨t, position⟩ :: rest) [t] rest :=
  .cons t position (.nil rest)

theorem exists_of_append (h : Splits input (ts ++ us) rest) :
    ∃ mid, Splits input ts mid ∧ Splits mid us rest := by
  induction ts generalizing input with
  | nil => exact ⟨input, .nil input, h⟩
  | cons t ts ih =>
    cases h with
    | cons _ position h =>
      obtain ⟨mid, hts, hus⟩ := ih h
      exact ⟨mid, .cons t position hts, hus⟩

/-- All of an input has been passed when nothing is left. -/
theorem end_iff : Splits input ts [] ↔ input.map Located.lexeme = ts := by
  constructor
  · intro h
    generalize hrest : ([] : List Located) = rest at h
    induction h with
    | nil _ => rw [← hrest, List.map_nil]
    | cons _ _ _ ih => rw [List.map_cons, ih hrest]
  · rintro rfl
    induction input with
    | nil => exact .nil []
    | cons x input ih => exact .cons x.lexeme x.position ih

end Splits

namespace Lexemes

/-- Passing a closing parenthesis. -/
theorem close_eq_ok {α : Type} {input : List Located} {ending : Ending} {t u : Taken α input}
    (h : close ending t = .ok u) :
    u.value = t.value ∧ Splits t.rest [.symbol .rightParen] u.rest ∧
      pass ending u.rest = .ok () := by
  rw [close] at h
  split at h
  · next position rest hrest =>
    obtain ⟨_, hpass, h⟩ := bind_eq_ok_iff.mp h
    obtain rfl := Except.ok.inj h
    have hsingle : Splits (⟨.symbol .rightParen, position⟩ :: rest) [.symbol .rightParen] rest :=
      .single _ _ _
    rw [← hrest] at hsingle
    exact ⟨rfl, hsingle, hpass⟩
  · exact absurd h (by simp)

end Lexemes

namespace Expression

open Lexemes

namespace Rules

variable {r : Rules} {level : Level} {p : Phrase} {depth : Nat} {input mid rest : List Located}
  {a b e : Expression}

theorem enter_eq_ok {u : Unit} (h : r.enter depth = .ok u) : depth < r.maxDepth := by
  rw [enter] at h
  split at h
  · exact absurd h (by simp)
  · omega

/-- One level less is left behind a place where nesting goes deeper. -/
theorem levels_of_lt (h : depth < r.maxDepth) :
    r.maxDepth - depth = r.maxDepth - (depth + 1) + 1 := by
  omega

/-- The input goes on with a part that stands for `e`, and behind it is `rest`. -/
structure Reads (r : Rules) (p : Phrase) (depth : Nat) (input : List Located) (e : Expression)
    (rest : List Located) : Prop where
  /-- The lexemes passed derive the expression, within the nesting that is left at this depth. -/
  derives : ∃ ts, Splits input ts rest ∧ Derives p (r.maxDepth - depth) ts e
  /-- No fault of the text has come up so far. -/
  passed : pass r.ending rest = .ok ()

/-- The input goes on with arguments and the parenthesis behind them, and then with `rest`. -/
structure ReadsArguments (r : Rules) (depth : Nat) (input : List Located) (es : List Expression)
    (rest : List Located) : Prop where
  /-- The lexemes passed derive the arguments one by one. -/
  derives : ∃ arguments : List (List Lexeme × Expression), es = arguments.map (·.2) ∧
    Splits input (commaSeparated (arguments.map (·.1)) ++ [.symbol .rightParen]) rest ∧
    ∀ a ∈ arguments, Derives (.chain .disjunction) (r.maxDepth - depth) a.1 a.2
  /-- No fault of the text has come up so far. -/
  passed : pass r.ending rest = .ok ()

namespace Reads

theorem chain (h : r.Reads level.operand depth input e rest) :
    r.Reads (.chain level) depth input e rest := by
  obtain ⟨ts, hsplits, hderives⟩ := h.derives
  exact ⟨⟨ts, hsplits, .operand hderives⟩, h.passed⟩

theorem join {s : Symbol} {position : Nat}
    (ha : r.Reads (.chain level) depth input a (⟨.symbol s, position⟩ :: mid))
    (hb : r.Reads level.operand depth mid b rest) (hjoin : Joins level s a b e) :
    r.Reads (.chain level) depth input e rest := by
  obtain ⟨ts, hts, ha⟩ := ha.derives
  obtain ⟨us, hus, hb'⟩ := hb.derives
  exact ⟨⟨_, hts.append (.cons _ _ hus), .join ha hb' hjoin⟩, hb.passed⟩

theorem unsigned (h : r.Reads .primary depth input e rest) :
    r.Reads .signed depth input e rest := by
  obtain ⟨ts, hsplits, hderives⟩ := h.derives
  exact ⟨⟨ts, hsplits, .unsigned hderives⟩, h.passed⟩

theorem plus {position : Nat} (h : r.Reads .signed depth input e rest) :
    r.Reads .signed depth (⟨.symbol .plus, position⟩ :: input) e rest := by
  obtain ⟨ts, hsplits, hderives⟩ := h.derives
  exact ⟨⟨_, .cons _ _ hsplits, .plus hderives⟩, h.passed⟩

theorem minus {position : Nat} (hdepth : depth < r.maxDepth)
    (h : r.Reads .signed (depth + 1) input e rest) :
    r.Reads .signed depth (⟨.symbol .minus, position⟩ :: input) e.negative rest := by
  obtain ⟨ts, hsplits, hderives⟩ := h.derives
  refine ⟨⟨_, .cons _ _ hsplits, ?_⟩, h.passed⟩
  rw [levels_of_lt hdepth]
  unfold negative
  split
  · exact .negativeNumber hderives
  · next hnumber => exact .minus hderives hnumber

theorem bang {position : Nat} (hdepth : depth < r.maxDepth)
    (h : r.Reads .signed (depth + 1) input e rest) :
    r.Reads .signed depth (⟨.symbol .bang, position⟩ :: input) e.not rest := by
  obtain ⟨ts, hsplits, hderives⟩ := h.derives
  refine ⟨⟨_, .cons _ _ hsplits, ?_⟩, h.passed⟩
  rw [levels_of_lt hdepth]
  exact .bang hderives

/-- A single lexeme is read. -/
theorem single {t : Lexeme} {position : Nat}
    (h : Derives .primary (r.maxDepth - depth) [t] e) (hpass : pass r.ending rest = .ok ()) :
    r.Reads .primary depth (⟨t, position⟩ :: rest) e rest :=
  ⟨⟨[t], .single _ _ _, h⟩, hpass⟩

theorem call {name : String} {position position' : Nat} {es : List Expression}
    (hdepth : depth < r.maxDepth) (h : r.ReadsArguments (depth + 1) input es rest) :
    r.Reads .primary depth (⟨.name name, position⟩ :: ⟨.symbol .leftParen, position'⟩ :: input)
      (callOf name es) rest := by
  obtain ⟨arguments, rfl, hsplits, hderives⟩ := h.derives
  refine ⟨⟨_, .cons _ _ (.cons _ _ hsplits), ?_⟩, h.passed⟩
  rw [levels_of_lt hdepth]
  exact .call name arguments hderives

theorem parentheses {position : Nat} (hdepth : depth < r.maxDepth)
    (h : r.Reads (.chain .disjunction) (depth + 1) input e mid)
    (hclose : Splits mid [.symbol .rightParen] rest) (hpass : pass r.ending rest = .ok ()) :
    r.Reads .primary depth (⟨.symbol .leftParen, position⟩ :: input) e rest := by
  obtain ⟨ts, hsplits, hderives⟩ := h.derives
  refine ⟨⟨_, .cons _ _ (hsplits.append hclose), ?_⟩, hpass⟩
  rw [levels_of_lt hdepth]
  exact .parentheses hderives

end Reads

namespace ReadsArguments

theorem nil {position : Nat} (hpass : pass r.ending rest = .ok ()) :
    r.ReadsArguments depth (⟨.symbol .rightParen, position⟩ :: rest) [] rest :=
  ⟨⟨[], rfl, .single _ _ _, by simp⟩, hpass⟩

/-- The last argument and the parenthesis. -/
theorem last (h : r.Reads (.chain .disjunction) depth input e mid)
    (hclose : Splits mid [.symbol .rightParen] rest) (hpass : pass r.ending rest = .ok ()) :
    r.ReadsArguments depth input [e] rest := by
  obtain ⟨ts, hsplits, hderives⟩ := h.derives
  refine ⟨⟨[(ts, e)], rfl, ?_, ?_⟩, hpass⟩
  · simpa using hsplits.append hclose
  · simpa using hderives

/-- An argument, a comma and further arguments. -/
theorem cons {position : Nat} {es : List Expression} (hes : es ≠ [])
    (h : r.Reads (.chain .disjunction) depth input e (⟨.symbol .comma, position⟩ :: mid))
    (hrest : r.ReadsArguments depth mid es rest) :
    r.ReadsArguments depth input (e :: es) rest := by
  obtain ⟨ts, hsplits, hderives⟩ := h.derives
  obtain ⟨arguments, rfl, hsplits', hderives'⟩ := hrest.derives
  refine ⟨⟨(ts, e) :: arguments, rfl, ?_, ?_⟩, hrest.passed⟩
  · -- behind a comma there is an argument
    cases arguments with
    | nil => exact absurd rfl hes
    | cons second arguments =>
      simpa using hsplits.append (.cons (.symbol .comma) position hsplits')
  · rintro a (_ | ⟨_, ha⟩)
    · exact hderives
    · exact hderives' a ha

end ReadsArguments

/-- A part is read as it is derived, if it is read at all. -/
def Sound (r : Rules) (p : Phrase) (depth : Nat) {input : List Located}
    (outcome : Except Fault (Taken Expression input)) : Prop :=
  ∀ t, outcome = .ok t → r.Reads p depth input t.value t.rest

/-- Arguments are read as they are derived, with the parenthesis that has to stand behind them. -/
def SoundArguments (r : Rules) (depth : Nat) {input : List Located}
    (outcome : Except Fault (Taken (List Expression) input)) : Prop :=
  ∀ t rest, outcome = .ok t → Splits t.rest [.symbol .rightParen] rest →
    pass r.ending rest = .ok () → r.ReadsArguments depth input t.value rest ∧ t.value ≠ []

/-- **The reader keeps to the grammar**, in each of the functions that it is made of. The induction is
theirs, with one case for each way in which one of them goes on. -/
theorem sound (r : Rules) :
    (∀ level depth input, r.Sound (.chain level) depth (r.chain level depth input)) ∧
    (∀ level depth input (left : Taken Expression input),
      r.Reads (.chain level) depth input left.value left.rest →
        r.Sound (.chain level) depth (r.chainFrom level depth left)) ∧
    (∀ level depth input, r.Sound level.operand depth (r.operand level depth input)) ∧
    (∀ depth input, r.Sound .signed depth (r.signed depth input)) ∧
    (∀ depth input, r.Sound .primary depth (r.primary depth input)) ∧
    (∀ depth input t, r.argumentList depth input = .ok t →
      r.ReadsArguments depth input t.value t.rest) ∧
    (∀ depth input, r.SoundArguments depth (r.arguments depth input)) := by
  refine Rules.chain.mutual_induct _ _ _ _ _ _ _ ?chain ?noOperator ?operator ?noSymbol
    ?disjunction ?conjunction ?comparison ?sum ?product ?minus ?plus ?bang ?unsigned ?literal ?var
    ?call ?bareName ?parentheses ?noPrimary ?noArguments ?argumentList ?arguments
  case chain =>
    -- the first operand is a chain, with which `chainFrom` goes on
    intro level depth input hoperand hfrom t h
    rw [chain] at h
    obtain ⟨first, hfirst, h⟩ := bind_eq_ok_iff.mp h
    exact hfrom first (hoperand first hfirst).chain t h
  case noOperator =>
    -- a symbol of another level ends the chain, so what has been read is what was there before
    intro level depth input left s position rest hrest hnone hleft t h
    rw [chainFrom] at h
    split at h
    · next s' _ _ hrest' =>
      obtain ⟨⟨rfl⟩, _⟩ := List.cons.inj (hrest.symm.trans hrest')
      simp only [hnone] at h
      obtain rfl := Except.ok.inj h
      exact hleft
    · obtain rfl := Except.ok.inj h
      exact hleft
  case operator =>
    -- the operator and the operand behind it make the chain longer, which is what is gone on with
    intro level depth input left s position rest hrest join hjoin hoperand hfrom hleft t h
    rw [chainFrom] at h
    split at h
    · next s' _ _ hrest' =>
      obtain ⟨⟨rfl, rfl⟩, rfl⟩ := hrest.symm.trans hrest'
      simp only [hjoin] at h
      obtain ⟨_, _, h⟩ := bind_eq_ok_iff.mp h
      obtain ⟨right, hright, h⟩ := bind_eq_ok_iff.mp h
      rw [hrest] at hleft
      exact hfrom right
        (hleft.join (hoperand right hright) (joins_iff.mpr ⟨join, hjoin, rfl⟩)) t h
    · next hnone => exact absurd hrest (hnone s position rest)
  case noSymbol =>
    intro level depth input left hnone hleft t h
    rw [chainFrom] at h
    split at h
    · next s position rest hrest => exact absurd hrest (hnone s position rest)
    · obtain rfl := Except.ok.inj h
      exact hleft
  -- the operands of a level are the chains of the next, and those of the last are signed
  case disjunction => intro depth input ih; rw [operand]; exact ih
  case conjunction => intro depth input ih; rw [operand]; exact ih
  case comparison => intro depth input ih; rw [operand]; exact ih
  case sum => intro depth input ih; rw [operand]; exact ih
  case product => intro depth input ih; rw [operand]; exact ih
  case minus =>
    -- a sign that nests is a level of its own, and what is behind it has been read one level deeper
    intro depth position rest ih t h
    rw [signed] at h
    obtain ⟨_, _, h⟩ := bind_eq_ok_iff.mp h
    obtain ⟨_, henter, h⟩ := bind_eq_ok_iff.mp h
    obtain ⟨u, hu, h⟩ := bind_eq_ok_iff.mp h
    obtain rfl := Except.ok.inj h
    exact (ih u hu).minus (enter_eq_ok henter)
  case plus =>
    intro depth position rest ih t h
    rw [signed] at h
    obtain ⟨_, _, h⟩ := bind_eq_ok_iff.mp h
    obtain ⟨u, hu, h⟩ := bind_eq_ok_iff.mp h
    obtain rfl := Except.ok.inj h
    exact (ih u hu).plus
  case bang =>
    intro depth position rest ih t h
    rw [signed] at h
    obtain ⟨_, _, h⟩ := bind_eq_ok_iff.mp h
    obtain ⟨_, henter, h⟩ := bind_eq_ok_iff.mp h
    obtain ⟨u, hu, h⟩ := bind_eq_ok_iff.mp h
    obtain rfl := Except.ok.inj h
    exact (ih u hu).bang (enter_eq_ok henter)
  case unsigned =>
    -- the equation for an operand without a sign asks that none of the signs stands there
    intro depth input hminus hplus hbang ih t h
    rw [signed.eq_4 _ _ _ hminus hplus hbang] at h
    exact (ih t h).unsigned
  case literal =>
    intro depth v position rest t h
    rw [primary] at h
    obtain ⟨_, hpass, h⟩ := bind_eq_ok_iff.mp h
    obtain rfl := Except.ok.inj h
    exact .single (.literal _ v) hpass
  case var =>
    intro depth name position rest t h
    rw [primary] at h
    obtain ⟨_, hpass, h⟩ := bind_eq_ok_iff.mp h
    obtain rfl := Except.ok.inj h
    exact .single (.var _ name) hpass
  case call =>
    intro depth name position position' rest ih t h
    rw [primary] at h
    obtain ⟨_, _, h⟩ := bind_eq_ok_iff.mp h
    obtain ⟨_, henter, h⟩ := bind_eq_ok_iff.mp h
    obtain ⟨u, hu, h⟩ := bind_eq_ok_iff.mp h
    obtain rfl := Except.ok.inj h
    exact .call (enter_eq_ok henter) (ih u hu)
  case bareName =>
    intro depth name position rest hparen t h
    rw [primary.eq_4 _ _ _ _ _ hparen] at h
    obtain ⟨_, hpass, h⟩ := bind_eq_ok_iff.mp h
    obtain rfl := Except.ok.inj h
    exact .single (.bareName _ name) hpass
  case parentheses =>
    -- the parenthesis that closes is not a part of what is derived inside, but is passed behind it
    intro depth position rest ih t h
    rw [primary] at h
    obtain ⟨_, _, h⟩ := bind_eq_ok_iff.mp h
    obtain ⟨_, henter, h⟩ := bind_eq_ok_iff.mp h
    obtain ⟨u, hu, h⟩ := bind_eq_ok_iff.mp h
    obtain ⟨v, hv, h⟩ := bind_eq_ok_iff.mp h
    obtain rfl := Except.ok.inj h
    obtain ⟨hvalue, hclose, hpass⟩ := close_eq_ok hv
    rw [Taken.value_widen, hvalue]
    exact (ih u hu).parentheses (enter_eq_ok henter) hclose hpass
  case noPrimary =>
    intro depth input hliteral hvar hcall hname hparen t h
    rw [primary.eq_6 _ _ _ hliteral hvar hcall hname hparen] at h
    exact absurd h (by simp)
  case noArguments =>
    intro depth position rest t h
    rw [argumentList] at h
    obtain ⟨_, hpass, h⟩ := bind_eq_ok_iff.mp h
    obtain rfl := Except.ok.inj h
    exact .nil hpass
  case argumentList =>
    -- `close` passes the parenthesis that `SoundArguments` asks for
    intro depth input hparen ih t h
    rw [argumentList.eq_2 _ _ _ hparen] at h
    obtain ⟨u, hu, h⟩ := bind_eq_ok_iff.mp h
    obtain ⟨hvalue, hclose, hpass⟩ := close_eq_ok h
    rw [hvalue]
    exact (ih u t.rest hu hclose hpass).1
  case arguments =>
    -- behind an argument there is a comma with more of them, or this was the last one
    intro depth input hchain ih t rest h hclose hpass
    rw [arguments] at h
    obtain ⟨first, hfirst, h⟩ := bind_eq_ok_iff.mp h
    have hreads := hchain first hfirst
    split at h
    · next position others hothers =>
      obtain ⟨_, _, h⟩ := bind_eq_ok_iff.mp h
      obtain ⟨u, hu, h⟩ := bind_eq_ok_iff.mp h
      obtain rfl := Except.ok.inj h
      rw [hothers] at hreads
      obtain ⟨hrest, hne⟩ := ih first position others hothers u rest hu hclose hpass
      exact ⟨.cons hne hreads hrest, by simp⟩
    · obtain rfl := Except.ok.inj h
      exact ⟨.last hreads hclose hpass, by simp⟩

end Rules

/-- **An expression that is read is derived** from the lexemes, within the nesting allowed, and the text
ends behind the last of them. -/
theorem derives_of_ofLexemes {maxDepth : Nat} {lexemes : Lexemes} {e : Expression}
    (h : ofLexemes maxDepth lexemes = .ok e) :
    Derives (.chain .disjunction) maxDepth (lexemes.items.map Located.lexeme) e ∧
      ∃ position, lexemes.ending = .finished position := by
  rw [ofLexemes] at h
  obtain ⟨_, _, h⟩ := bind_eq_ok_iff.mp h
  obtain ⟨t, ht, h⟩ := bind_eq_ok_iff.mp h
  split at h
  · next hrest =>
    obtain rfl := Except.ok.inj h
    -- the chain that has been read has to end with the lexemes
    have hreads := (Rules.sound _).1 _ _ _ t ht
    obtain ⟨ts, hsplits, hderives⟩ := hreads.derives
    rw [hrest, Splits.end_iff] at hsplits
    refine ⟨hsplits ▸ hderives, ?_⟩
    -- a fault behind the last lexeme would have come up when that was passed
    have hpassed := hreads.passed
    rw [hrest] at hpassed
    cases hending : lexemes.ending with
    | finished position => exact ⟨position, rfl⟩
    | faulty fault => simp [hending, Lexemes.pass] at hpassed
  · exact absurd h (by simp [throw, throwThe, MonadExceptOf.throw])

end Expression

end Formulary
