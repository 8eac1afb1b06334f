import Formulary.Proofs.Expression.Completeness
import Formulary.Proofs.Expression.Faults
import Formulary.Proofs.Screen.Places

/-!
# What the position of a fault counts

A fault that tells a position stands in the text, but not all positions count from the same place
(`Expression.ofText_position`). The screen goes through the text as it is given, so that a position that it tells counts
the bytes of that text. The text is then read without the white space around it, and a position that the reader tells
counts from the first character that is not white space. Therefore white space before a text moves a position if the
screen tells it, and leaves it where it is otherwise.

The reader finds fault where a lexeme stands, where the lexemes end, or with what they end in. It comes from one
place to another by passing a lexeme, and never behind the last one if what follows is no end (`Lexemes.Reached`).
-/

namespace Formulary

/-! ### The reader -/

/-- A place that reading comes to: some of the lexemes are left, and if none is, the text has come to its end. -/
def Lexemes.Reached (lexemes : Lexemes) (input : List Located) : Prop :=
  input <:+ lexemes.items ∧ (input = [] → ∃ last, lexemes.ending = .finished last)

namespace Expression

variable {lexemes : Lexemes} {base : Nat} {text : List Char} {input : List Located}

/-- At a place that is reached there is what is said to be there. -/
theorem stands_at_here (h : lexemes.Placed base text) (hinput : lexemes.Reached input) :
    ∃ before after, text = before ++ after ∧
      (Lexemes.here lexemes.ending input).2 = base + Text.byteLength before ∧
      StartsWith after (Lexemes.here lexemes.ending input).1 := by
  obtain ⟨hsuffix, hlast⟩ := hinput
  cases input with
  | cons item rest => exact h.items item (hsuffix.mem List.mem_cons_self)
  | nil =>
    obtain ⟨last, hending⟩ := hlast rfl
    rw [hending]
    exact ⟨text, [], (List.append_nil text).symm, h.finished last hending, fun c hc => nomatch hc⟩

/-- Passing a lexeme comes to a place, or to what is no lexeme. -/
theorem pass_reached (h : lexemes.Placed base text) (hsuffix : input <:+ lexemes.items) :
    Ends (fun fault => fault.Stands base text) (fun _ => lexemes.Reached input)
      (Lexemes.pass lexemes.ending input) := by
  unfold Lexemes.pass
  split
  · next fault hfaulty => exact .error (h.faulty fault hfaulty).2
  · next hnot =>
    refine .ok ⟨hsuffix, ?_⟩
    rintro rfl
    cases hending : lexemes.ending with
    | finished last => exact ⟨last, rfl⟩
    | faulty fault => exact absurd hending (hnot fault rfl)

/-- **What the reader tells a position of stands there.** -/
theorem ofLexemes_stands (maxDepth : Nat) (h : lexemes.Placed base text) :
    FailsWith (fun fault => fault.Stands base text) (ofLexemes maxDepth lexemes) := by
  refine ofLexemes_failsWith (Q := fun _ => lexemes.Reached) ⟨?_, ?_, ?_, ?_⟩ (pass_reached h List.suffix_rfl)
  · -- what the reader has before it is the rest of the lexemes throughout, however many parentheses are open
    intro _ _ t rest hinput _
    exact pass_reached h ((List.suffix_cons t rest).trans hinput.1)
  · exact Fault.stands_of_position? rfl _ _
  · intro _ input hinput p hp
    obtain rfl := Option.some.inj hp
    exact stands_at_here h hinput
  · intro _ input hinput p hp
    obtain rfl := Option.some.inj hp
    exact stands_at_here h hinput

/-! ### Whole texts -/

/-- A text that is read without white space is the text from its first other character on, white space behind it
aside. -/
theorem ofChars_stands {limits : Limits} {text : List Char} (hscreen : Screen.check limits text = .ok ()) :
    FailsWith (fun fault => fault.Stands 0 (Text.trimStart text)) (ofChars limits text) := by
  obtain ⟨after, hafter, hstart⟩ := Text.exists_trimStart text
  rw [ofChars, hscreen, ok_bind, hstart]
  exact (ofLexemes_stands limits.maxDepth (Lexemes.placed_ofCharsFrom 0 _)).imp
    fun fault hfault => hfault.append hafter

/-- White space before a text is trimmed off with what is there already. -/
theorem trim_blanks {blanks : List Char} (h : ∀ c ∈ blanks, Text.isBlank c = true) (text : List Char) :
    Text.trim (blanks ++ text) = Text.trim text := by
  rw [Text.trim, Text.trimStart, List.dropWhile_append_of_pos h, Text.trim, Text.trimStart]

/-- **What positions count.** A text that is refused is refused by the screen or by the reader. If by the screen, the
position of the fault counts the bytes of the text, and white space put before the text moves it by its length. If by
the reader, the position counts from the first character that is not white space, and stays as it is. The fault is
otherwise the same behind white space, as long as the text does not become too long. -/
theorem ofText_position (limits : Limits) (text : String) (fault : Fault)
    (h : ofText limits text = .error fault) :
    (Screen.check limits text.toList = .error fault ∧ fault.Stands 0 text.toList ∧
      ∀ blanks : String, (∀ c ∈ blanks.toList, Text.isBlank c = true) →
        (blanks ++ text).length ≤ limits.maxLength →
        ofText limits (blanks ++ text) = .error (fault.shift (Text.byteLength blanks.toList))) ∨
    (Screen.check limits text.toList = .ok () ∧ fault.Stands 0 (Text.trimStart text.toList) ∧
      ∀ blanks : String, (∀ c ∈ blanks.toList, Text.isBlank c = true) →
        (blanks ++ text).length ≤ limits.maxLength →
        ofText limits (blanks ++ text) = .error fault) := by
  -- the screen sees the white space, the reader never does
  have hblanks {blanks : String} (hblanks : ∀ c ∈ blanks.toList, Text.isBlank c = true)
      (hlength : (blanks ++ text).length ≤ limits.maxLength) :
      ofText limits (blanks ++ text) =
        ((Screen.check limits text.toList).mapError (Fault.shift (Text.byteLength blanks.toList)) >>=
          fun _ => ofLexemes limits.maxDepth (Lexemes.ofChars (Text.trim text.toList))) := by
    rw [← String.length_toList, String.toList_append] at hlength
    rw [ofText, ofChars, String.toList_append, Screen.check_blanks hblanks hlength, trim_blanks hblanks]
  cases hscreen : Screen.check limits text.toList with
  | error other =>
    -- the screen refuses the text, and behind white space the same place of it
    rw [ofText, ofChars, hscreen] at h
    obtain rfl : other = fault := Except.error.inj h
    refine Or.inl ⟨rfl, Screen.check_stands limits _ _ hscreen, fun blanks hall hlength => ?_⟩
    rw [hblanks hall hlength, hscreen]
    rfl
  | ok _ =>
    -- the text passes the screen in both forms, and the reader is given the same characters
    refine Or.inr ⟨rfl, ofChars_stands hscreen fault h, fun blanks hall hlength => ?_⟩
    rw [hblanks hall hlength, hscreen, ← h, ofText, ofChars, hscreen]
    rfl

/-! ### A text that ends too early -/

/-- Where the lexemes end there is no operand of any level. -/
theorem operand_nil {r : Rules} (level : Level) (depth : Nat) :
    r.operand level depth [] = .error (Lexemes.unexpected r.ending []) := by
  cases level <;> simp [Rules.chain, Rules.operand, Rules.signed, Rules.primary]

/-- A fault in a chain is one in the chains of looser operators around it. -/
theorem chain_disjunction_eq_error {r : Rules} {level : Level} {depth : Nat} {fault : Fault}
    (h : r.chain level depth input = .error fault) : r.chain .disjunction depth input = .error fault := by
  have hlooser (looser tighter : Level)
      (hoperand : r.operand looser depth input = r.chain tighter depth input)
      (h : r.chain tighter depth input = .error fault) : r.chain looser depth input = .error fault := by
    rw [Rules.chain, hoperand, h]
    rfl
  -- a chain begins with one of the next tighter level, up to the level of the fault
  have hconjunction := hlooser .disjunction .conjunction (by rw [Rules.operand])
  have hcomparison := hlooser .conjunction .comparison (by rw [Rules.operand])
  have hsum := hlooser .comparison .sum (by rw [Rules.operand])
  have hproduct := hlooser .sum .product (by rw [Rules.operand])
  cases level with
  | disjunction => exact h
  | conjunction => exact hconjunction h
  | comparison => exact hconjunction (hcomparison h)
  | sum => exact hconjunction (hcomparison (hsum h))
  | product => exact hconjunction (hcomparison (hsum (hproduct h)))

/-- Where an operator is the last lexeme, it is the end of the text that is unexpected. -/
theorem ofLexemes_without_operand {level : Level} {s : Symbol} {join : Expression → Expression → Expression}
    {n maxDepth last : Nat} {ts : List Lexeme} {a : Expression} {items : List Located}
    (hts : Derives (.chain level) n ts a) (hjoin : level.join? s = some join) (hdepth : n ≤ maxDepth)
    (hitems : items.map Located.lexeme = ts ++ [.symbol s]) :
    ofLexemes maxDepth ⟨items, .finished last⟩ = .error (.malformed (.unexpected none last)) := by
  obtain ⟨mid, hmid, hsplits⟩ := (Splits.end_iff.mpr hitems).exists_of_append
  cases hsplits with
  | @cons tail _ _ _ position hsplits =>
    cases hsplits
    -- up to the operator the chain is read, and behind it nothing is left
    have hcomplete : (⟨maxDepth, .finished last⟩ : Rules).Complete _ _ _ _ := Rules.complete rfl hts
    have hstops := Rules.stops_operator (joins_iff.mpr ⟨join, hjoin, rfl⟩ : Joins level s a a _) position []
    have hread := (hcomplete 0 items _ (hmid.shorter hts) hmid hstops).resolve_right fun hdeep => by
      have hless : maxDepth < n + 0 := hdeep.1
      omega
    change (⟨maxDepth, .finished last⟩ : Rules).chain level 0 items = Rules.chainFrom _ level 0 _ at hread
    rw [Rules.chainFrom_of_operator hjoin (Rules.pass_of_finished rfl []), operand_nil] at hread
    rw [ofLexemes, Rules.pass_of_finished rfl, ok_bind, chain_disjunction_eq_error hread]
    rfl

/-- The text ends behind three bytes, where an operand has to stand. -/
def endsEarly : Fault := .malformed (.unexpected none 3)

/-- A text that is `1 +` but for white space at its ends. -/
theorem ofText_sumWithoutOperand {text : String} (hscreen : Screen.check {} text.toList = .ok ())
    (htrim : Text.trim text.toList = "1 +".toList) : ofText {} text = .error endsEarly := by
  have hlexemes : Lexemes.ofChars "1 +".toList =
      ⟨[⟨.literal (.number .one), 0⟩, ⟨.symbol .plus, 2⟩], .finished 3⟩ := by
    decide +kernel
  have hone : Derives (.chain .sum) 0 [.literal (.number .one)] (.literal (.number .one)) :=
    (Derives.literal 0 _).chain_of_primary .sum
  rw [ofText, ofChars, hscreen, ok_bind, htrim, hlexemes]
  exact ofLexemes_without_operand hone rfl (by decide) rfl

theorem check_sumWithoutOperand : Screen.check {} "1 +".toList = .ok () := by
  decide +kernel

/-- The position of a missing operand stays as it is behind white space, that of a parenthesis moves. -/
theorem ofText_position_tab :
    (ofText {} "1 +" = .error endsEarly ∧ endsEarly.Stands 0 "1 +".toList ∧
      ofText {} ("\t" ++ "1 +") = .error endsEarly) ∧
    (ofText {} ")" = .error (.unbalancedParentheses 0) ∧
      (Fault.unbalancedParentheses 0).Stands 0 ")".toList ∧
      ofText {} ("\t" ++ ")") = .error (.unbalancedParentheses 1)) := by
  have hblank : ∀ c ∈ "\t".toList, Text.isBlank c = true := Text.forall_mem_of_all (by decide)
  have hsum := ofText_sumWithoutOperand check_sumWithoutOperand (by decide)
  have hcheck : Screen.check {} ")".toList = .error (.unbalancedParentheses 0) := by
    decide +kernel
  have hclosed : ofText {} ")" = .error (.unbalancedParentheses 0) := by
    rw [ofText, ofChars, hcheck]
    rfl
  refine ⟨⟨hsum, ?_⟩, hclosed, ?_⟩
  · -- the two texts fall under different cases, told apart by whether the screen passes them
    rcases ofText_position {} "1 +" endsEarly hsum with ⟨hrefused, -⟩ | ⟨-, hstands, hbehind⟩
    · rw [check_sumWithoutOperand] at hrefused
      cases hrefused
    · exact ⟨hstands, hbehind "\t" hblank (by decide)⟩
  · rcases ofText_position {} ")" _ hclosed with ⟨-, hstands, hbehind⟩ | ⟨hpassed, -⟩
    · exact ⟨hstands, hbehind "\t" hblank (by decide)⟩
    · rw [hcheck] at hpassed
      cases hpassed

/-- **A position that is not one of the text.** Behind two spaces the text ends two bytes later, but the fault is the
same, and behind its three bytes the text has not ended. -/
theorem ofText_position_spaces :
    ofText {} "1 +" = .error endsEarly ∧ ofText {} ("  " ++ "1 +") = .error endsEarly ∧
      ¬endsEarly.Stands 0 ("  " ++ "1 +").toList := by
  refine ⟨ofText_sumWithoutOperand check_sumWithoutOperand (by decide), ?_, fun hstands => ?_⟩
  · exact ofText_sumWithoutOperand (by decide +kernel) (by decide)
  · obtain ⟨before, after, htext, hposition, hblank⟩ := hstands 3 rfl
    have hbytes := congrArg Text.byteLength htext
    rw [Text.byteLength_append, show Text.byteLength ("  " ++ "1 +").toList = 5 by decide] at hbytes
    have hne : after ≠ [] := by
      rintro rfl
      rw [Text.byteLength_nil] at hbytes
      omega
    -- so the last character stands behind the place, but it is a plus and no white space
    have hlast := congrArg List.getLast? htext
    rw [List.getLast?_append, List.getLast?_eq_some_getLast hne] at hlast
    have hplus : '+' = after.getLast hne := Option.some.inj hlast
    have hlastBlank := hblank _ (List.getLast_mem hne)
    rw [← hplus] at hlastBlank
    contradiction

end Expression

end Formulary
