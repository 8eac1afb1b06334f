import Formulary.Expression.Reader
import Formulary.Proofs.Lexeme.Parentheses
import Formulary.Proofs.Lexeme.Places
import Formulary.Proofs.Screen.Forbidden
import Formulary.Proofs.Screen.Parentheses

/-!
# What can go wrong with a text

A text that is no expression is refused for its structure or for a forbidden token in it, and for nothing
else (`Expression.ofText_failsWith`). Each of the three steps of reading is asked for what it can fail with:

* the screen finds a forbidden token, or a fault of structure (`Screen.check_failsWith`);
* splitting a text into lexemes ends in a fault that tells a position if it does not come to the end, and only
  faults of structure do (`Lexemes.isSyntax_of_faulty`);
* reading lexemes fails with a fault of structure of its own, or with the one that the lexemes end in
  (`Expression.ofLexemes_bySyntax`).

What reading keeps is said for any kind of fault at once (`Expression.Rules.Keeps`): it is enough to look at the
faults that the reader makes and at the places that it comes to. At each of these the reader has some parentheses left
to close, and misses one only where there is one.
-/

namespace Formulary

/-- A fault of the text of an expression: of its structure, or for a forbidden token. -/
def Fault.IsOfText (fault : Fault) : Prop :=
  fault.isSyntax = true ∨ ∃ token, fault = .unsafeExpression token

/-- The outcome is no fault but one of structure. -/
abbrev BySyntax {α : Type} (outcome : Except Fault α) : Prop :=
  FailsWith (fun fault => fault.isSyntax = true) outcome

/-! ### The screen -/

namespace Screen

theorem IsUnpaired.isSyntax {fault : Fault} (h : IsUnpaired fault) : fault.isSyntax = true := by
  rcases h with ⟨_, rfl⟩ | ⟨_, rfl⟩
  · rfl
  · rfl

/-- The screen refuses a text for its structure or for a forbidden token. -/
theorem check_failsWith (limits : Limits) (text : List Char) :
    FailsWith Fault.IsOfText (check limits text) := by
  intro fault h
  rcases check_eq_error h with ⟨-, rfl⟩ | ⟨-, ⟨-, rfl⟩ | ⟨-, hparentheses | ⟨-, token, -, rfl⟩⟩⟩
  · exact Or.inl rfl
  · exact Or.inl rfl
  · exact Or.inl (checkParentheses_failsWith text fault hparentheses).isSyntax
  · exact Or.inr ⟨_, rfl⟩

end Screen

/-! ### Lexemes -/

/-- What is no lexeme is a fault of structure. -/
theorem Lexemes.isSyntax_of_faulty {position : Nat} {text : List Char} {fault : Fault}
    (h : (ofCharsFrom position text).ending = .faulty fault) : fault.isSyntax = true :=
  Fault.isSyntax_of_position? ((placed_ofCharsFrom position text).faulty fault h).1

/-! ### Reading -/

namespace Expression

namespace Rules

/-- What a reader is asked for if its faults are to be of the kind `P`: the faults of its own are, at any place of
which `Q` holds behind as many parentheses as are open there, and `Q` holds of each place that it comes to by passing
a lexeme. -/
structure Keeps (r : Rules) (P : Fault → Prop) (Q : Nat → List Located → Prop) : Prop where
  /-- Behind a lexeme there is a place of which `Q` holds, or a fault of the text. -/
  pass : ∀ {opened opened' t rest}, Q opened (t :: rest) → t.lexeme.Turns opened opened' →
    Ends P (fun _ => Q opened' rest) (Lexemes.pass r.ending rest)
  /-- Operands may be nested too deep. -/
  tooDeep : P (.nestingTooDeep r.maxDepth)
  /-- A lexeme may be out of place. -/
  unexpected : ∀ opened input, Q opened input → P (Lexemes.unexpected r.ending input)
  /-- A parenthesis may be missing if one is open. -/
  unclosed : ∀ opened input, Q (opened + 1) input → P (Lexemes.unclosed r.ending input)

section

variable {r : Rules} {P : Fault → Prop} {Q : Nat → List Located → Prop}

/-- A part is read up to a place of which `Q` holds, or there is a fault of the kind `P`. -/
abbrev EndsAt {α : Type} {input : List Located} (P : Fault → Prop) (Q : List Located → Prop)
    (outcome : Except Fault (Taken α input)) : Prop :=
  Ends P (fun t => Q t.rest) outcome

/-- No operator is a parenthesis. -/
theorem parenthesis?_of_join? {level : Level} {s : Symbol} {join : Expression → Expression → Expression}
    (h : level.join? s = some join) : (Lexeme.symbol s).parenthesis? = none := by
  cases s <;> first | rfl | (cases level <;> contradiction)

variable (h : r.Keeps P Q)
include h

theorem Keeps.enter (depth : Nat) : FailsWith P (r.enter depth) := .ite (.error h.tooDeep) (.ok _)

theorem Keeps.close {α : Type} {input : List Located} {opened : Nat} (t : Taken α input)
    (ht : Q (opened + 1) t.rest) : EndsAt P (Q opened) (Lexemes.close r.ending t) := by
  unfold Lexemes.close
  split
  · next position rest hrest =>
    rw [hrest] at ht
    -- the parenthesis that was open is closed
    exact (h.pass ht rfl).andThen fun _ hQ => .ok hQ
  · exact .error (h.unclosed _ _ ht)

/-- **What the places and the lexemes keep, reading keeps**, in each of the functions that it is made of. All leave as
many parentheses open as are open before, and the arguments of a call one less. -/
theorem Keeps.reading :
    (∀ level depth input opened, Q opened input → EndsAt P (Q opened) (r.chain level depth input)) ∧
    (∀ level depth input (left : Taken Expression input) opened, Q opened left.rest →
      EndsAt P (Q opened) (r.chainFrom level depth left)) ∧
    (∀ level depth input opened, Q opened input → EndsAt P (Q opened) (r.operand level depth input)) ∧
    (∀ depth input opened, Q opened input → EndsAt P (Q opened) (r.signed depth input)) ∧
    (∀ depth input opened, Q opened input → EndsAt P (Q opened) (r.primary depth input)) ∧
    (∀ depth input opened, Q (opened + 1) input →
      EndsAt P (Q opened) (r.argumentList depth input)) ∧
    (∀ depth input opened, Q opened input → EndsAt P (Q opened) (r.arguments depth input)) := by
  refine Rules.chain.mutual_induct _ _ _ _ _ _ _ ?chain ?noOperator ?operator ?noSymbol
    ?disjunction ?conjunction ?comparison ?sum ?product ?minus ?plus ?bang ?unsigned ?literal ?var
    ?call ?bareName ?parentheses ?noPrimary ?noArguments ?argumentList ?arguments
  case chain =>
    -- each part is asked of from the place to which the part before it has come
    intro level depth input hoperand hfrom opened hQ
    rw [chain]
    exact (hoperand opened hQ).andThen fun first => hfrom first opened
  case noOperator =>
    -- no operator of the level stands there, so nothing is passed
    intro level depth input left s position rest hrest hnone opened hQ
    rw [chainFrom]
    split
    · next s' _ _ hrest' =>
      obtain ⟨⟨rfl⟩, _⟩ := List.cons.inj (hrest.symm.trans hrest')
      simp only [hnone]
      exact .ok hQ
    · exact .ok hQ
  case operator =>
    intro level depth input left s position rest hrest join hjoin hoperand hfrom opened hQ
    rw [chainFrom]
    split
    · next s' _ _ hrest' =>
      obtain ⟨⟨rfl, rfl⟩, rfl⟩ := hrest.symm.trans hrest'
      simp only [hjoin]
      rw [hrest] at hQ
      -- an operator opens and closes nothing
      have hturns : (Lexeme.symbol s).Turns opened opened :=
        (Lexeme.turns_iff_of_none (parenthesis?_of_join? hjoin)).mpr rfl
      refine (h.pass hQ hturns).andThen fun _ hQ => ?_
      exact (hoperand opened hQ).andThen fun right => hfrom right opened
    · exact .ok hQ
  case noSymbol =>
    intro level depth input left hnone opened hQ
    rw [chainFrom]
    split
    · next s position rest hrest => exact absurd hrest (hnone s position rest)
    · exact .ok hQ
  case disjunction => intro depth input ih; rw [operand]; exact ih
  case conjunction => intro depth input ih; rw [operand]; exact ih
  case comparison => intro depth input ih; rw [operand]; exact ih
  case sum => intro depth input ih; rw [operand]; exact ih
  case product => intro depth input ih; rw [operand]; exact ih
  case minus | bang =>
    intro depth position rest ih opened hQ
    rw [signed]
    refine (h.pass hQ rfl).andThen fun _ hQ => .bind (h.enter _) fun _ _ => ?_
    exact (ih opened hQ).andThen fun t ht => .ok ht
  case plus =>
    intro depth position rest ih opened hQ
    rw [signed]
    exact (h.pass hQ rfl).andThen fun _ hQ => (ih opened hQ).andThen fun t ht => .ok ht
  case unsigned =>
    intro depth input hminus hplus hbang ih
    rw [signed.eq_4 _ _ _ hminus hplus hbang]
    exact ih
  case literal =>
    intro depth v position rest opened hQ
    rw [primary]
    exact (h.pass hQ rfl).andThen fun _ hQ => .ok hQ
  case var =>
    intro depth name position rest opened hQ
    rw [primary]
    exact (h.pass hQ rfl).andThen fun _ hQ => .ok hQ
  case call =>
    intro depth name position position' rest ih opened hQ
    rw [primary]
    -- the name and the parenthesis behind it are passed together
    have hparen : Q opened (⟨.symbol .leftParen, position'⟩ :: rest) := (h.pass hQ rfl).yields () rfl
    refine (h.pass hparen rfl).andThen fun _ hQ => .bind (h.enter _) fun _ _ => ?_
    exact (ih opened hQ).andThen fun t ht => .ok ht
  case bareName =>
    intro depth name position rest hparen opened hQ
    rw [primary.eq_4 _ _ _ _ _ hparen]
    exact (h.pass hQ rfl).andThen fun _ hQ => .ok hQ
  case parentheses =>
    -- the parenthesis is open while the inside is read, and closed behind it
    intro depth position rest ih opened hQ
    rw [primary]
    refine (h.pass hQ rfl).andThen fun _ hQ => .bind (h.enter _) fun _ _ => ?_
    exact (ih (opened + 1) hQ).andThen fun t ht => (h.close t ht).andThen fun t ht => .ok ht
  case noPrimary =>
    -- the lexeme, or the end, is out of place here
    intro depth input hliteral hvar hcall hname hparen opened hQ
    rw [primary.eq_6 _ _ _ hliteral hvar hcall hname hparen]
    exact .error (h.unexpected _ _ hQ)
  case noArguments =>
    intro depth position rest opened hQ
    rw [argumentList]
    exact (h.pass hQ rfl).andThen fun _ hQ => .ok hQ
  case argumentList =>
    -- the parenthesis of the call is open until the arguments have been read
    intro depth input hparen ih opened hQ
    rw [argumentList.eq_2 _ _ _ hparen]
    exact (ih (opened + 1) hQ).andThen h.close
  case arguments =>
    -- commas leave open what is open
    intro depth input hchain ih opened hQ
    rw [arguments]
    refine (hchain opened hQ).andThen fun first hfirst => ?_
    split
    · next position others hothers =>
      rw [hothers] at hfirst
      refine (h.pass hfirst rfl).andThen fun _ hQ => ?_
      exact (ih first position others hothers opened hQ).andThen fun t ht => .ok ht
    · exact .ok hfirst

end

end Rules

/-- What reading keeps holds of the faults of whole expressions. -/
theorem ofLexemes_failsWith {maxDepth : Nat} {lexemes : Lexemes} {P : Fault → Prop}
    {Q : Nat → List Located → Prop} (h : Rules.Keeps ⟨maxDepth, lexemes.ending⟩ P Q)
    (hfirst : Ends P (fun _ => Q 0 lexemes.items) (Lexemes.pass lexemes.ending lexemes.items)) :
    FailsWith P (ofLexemes maxDepth lexemes) := by
  refine hfirst.fails.bind fun _ hpass => ?_
  have hread := h.reading.1 .disjunction 0 lexemes.items 0 (hfirst.yields _ hpass)
  refine hread.fails.bind fun t ht => ?_
  -- behind the whole chain there may be a lexeme too many
  split
  · exact .ok _
  · exact .error (h.unexpected _ _ (hread.yields t ht))

theorem ofLexemes_bySyntax (maxDepth : Nat) {lexemes : Lexemes}
    (hending : ∀ fault, lexemes.ending = .faulty fault → fault.isSyntax = true) :
    BySyntax (ofLexemes maxDepth lexemes) := by
  have hpass (rest : List Located) :
      Ends (fun fault => fault.isSyntax = true) (fun _ => True) (Lexemes.pass lexemes.ending rest) := by
    unfold Lexemes.pass
    split
    · next fault hfaulty => exact .error (hending fault hfaulty)
    · exact .ok trivial
  exact ofLexemes_failsWith (Q := fun _ _ => True)
    ⟨fun _ _ => hpass _, rfl, fun _ _ _ => rfl, fun _ _ _ => rfl⟩ (hpass _)

/-- **A text is refused for its structure or for a forbidden token**, and for nothing else. -/
theorem ofText_failsWith (limits : Limits) (text : String) :
    FailsWith Fault.IsOfText (ofText limits text) := by
  have hread : BySyntax (ofLexemes limits.maxDepth (Lexemes.ofChars (Text.trim text.toList))) :=
    ofLexemes_bySyntax _ fun _ hfaulty => Lexemes.isSyntax_of_faulty hfaulty
  exact (Screen.check_failsWith limits _).bind fun _ _ => hread.imp fun _ hsyntax => Or.inl hsyntax

end Expression

end Formulary
