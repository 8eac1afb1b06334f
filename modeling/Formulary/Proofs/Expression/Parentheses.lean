import Formulary.Proofs.Expression.Faults

/-!
# Parentheses that the reader finds closed

The screen looks for quotes and parentheses character by character, the reader takes them from the lexemes. If there
are no brackets in a text, the two agree on it (`Expression.parentheses_agree`): what is not quoted for the one is not
quoted for the other, and where the screen finds all parentheses closed the reader does not miss one at the end.

The reader never has more parentheses left to close than are open, but may stop before it has closed them. What
carries the statement is therefore that at each place that it comes to, the lexemes that are left close as many as the
reader has open (`Closes`). Where none is left it has none open. If the lexemes end in a fault, the reader finds it there
instead.
-/

namespace Formulary

/-- A quoted text or a parenthesis is open at the end of a text. -/
def Fault.isUnclosed : Fault → Bool
  | unterminatedString _ => true
  | malformed (.unclosed none _) => true
  | _ => false

theorem SyntaxFault.isUnclosed_of_isLexical {cause : SyntaxFault} (h : cause.isLexical = true) :
    (Fault.malformed cause).isUnclosed = false := by
  cases cause <;> first | rfl | contradiction

namespace Expression

variable {maxDepth : Nat} {items : List Located}

/-- Lexemes that close what they open are read, or refused for something else. -/
theorem ofLexemes_of_closes (h : Closes 0 (Lexemes.parentheses items)) (last : Nat) :
    FailsWith (fun fault => fault.isUnclosed = false) (ofLexemes maxDepth ⟨items, .finished last⟩) := by
  have hpass (rest : List Located) : Lexemes.pass (.finished last) rest = .ok () := by
    cases rest <;> rfl
  refine ofLexemes_failsWith (Q := fun opened input => Closes opened (Lexemes.parentheses input))
    ⟨?_, rfl, fun _ _ _ => rfl, ?_⟩ ?_
  · -- a lexeme that is passed turns what the reader has open as it turns what is left to close
    intro opened opened' t rest hcloses hturns
    rw [hpass]
    exact .ok (hcloses.behind hturns)
  · intro opened input hcloses
    cases input with
    | cons item rest => rfl
    -- a parenthesis is missed only where no lexeme is left, but then none is open
    | nil => exact absurd (Closes.nil_iff.mp hcloses) (Nat.succ_ne_zero opened)
  · rw [hpass]
    exact .ok h

/-- Lexemes that end in a fault are refused for it or for what stands before it. -/
theorem ofLexemes_of_faulty {fault : Fault} (h : fault.isUnclosed = false) :
    FailsWith (fun fault => fault.isUnclosed = false) (ofLexemes maxDepth ⟨items, .faulty fault⟩) := by
  -- the reader comes to the fault before it can find that no lexeme is left
  have hpass (rest : List Located) :
      Ends (fun fault => fault.isUnclosed = false) (fun _ => rest ≠ []) (Lexemes.pass (.faulty fault) rest) := by
    cases rest with
    | nil => exact .error h
    | cons item rest => exact .ok (List.cons_ne_nil item rest)
  refine ofLexemes_failsWith (Q := fun _ input => input ≠ []) ⟨fun _ _ => hpass _, rfl, fun _ _ _ => rfl, ?_⟩
    (hpass items)
  intro opened input hinput
  cases input with
  | cons item rest => rfl
  | nil => contradiction

/-- What passes the check of parentheses is read, or refused for something else than what is open at its end. -/
theorem ofLexemes_of_check {text : List Char} (hbracket : '[' ∉ text)
    (hcheck : Screen.checkParentheses text = .ok ()) (maxDepth : Nat) :
    FailsWith (fun fault => fault.isUnclosed = false) (ofLexemes maxDepth (Lexemes.ofChars text)) := by
  cases hlexemes : Lexemes.ofChars text with
  | mk items ending =>
    have hending : (Lexemes.ofChars text).ending = ending := by rw [hlexemes]
    cases ending with
    | finished last =>
      have hcloses := (Screen.checkParenthesesFrom_eq_ok_iff_closes hbracket hending 0).mp hcheck
      rw [← Lexemes.ofChars, hlexemes] at hcloses
      exact ofLexemes_of_closes hcloses last
    | faulty fault =>
      -- a quote left open would have been refused by the check already
      rcases Screen.checkParenthesesFrom_of_faulty hbracket hending with ⟨cause, rfl, hcause⟩ | ⟨-, hrefused⟩
      · exact ofLexemes_of_faulty (SyntaxFault.isUnclosed_of_isLexical hcause)
      · exact absurd hcheck (hrefused 0 0 0)

/-- **The screen and the reader agree on quotes and parentheses** in a text without brackets. If nothing in it is no
lexeme, it passes the check of parentheses exactly if all quoted texts are closed and the parentheses among the lexemes
are a Dyck word. If it passes the screen, whatever is in it, the reader misses no quote and at the end no parenthesis. -/
theorem parentheses_agree {text : String} (hbracket : '[' ∉ text.toList) :
    ((∀ cause, (Lexemes.ofChars text.toList).ending = .faulty (.malformed cause) → cause.isLexical = false) →
      (Screen.checkParentheses text.toList = .ok () ↔
        (∀ position, (Lexemes.ofChars text.toList).ending ≠ .faulty (.unterminatedString position)) ∧
          ∃ w : DyckWord, w.toList = Lexemes.parentheses (Lexemes.ofChars text.toList).items)) ∧
    ∀ limits, Screen.check limits text.toList = .ok () →
      FailsWith (fun fault => fault.isUnclosed = false) (ofText limits text) := by
  refine ⟨Screen.checkParentheses_eq_ok_iff hbracket, fun limits hscreen => ?_⟩
  obtain ⟨-, -, hcheck, -⟩ := Screen.check_eq_ok_iff.mp hscreen
  -- the reader does without the white space around the text
  obtain ⟨after, -, htext⟩ := Text.exists_trim text.toList
  have htrim : '[' ∉ Text.trim text.toList := by
    intro hmem
    rw [htext] at hbracket
    exact hbracket (List.mem_append_right _ (List.mem_append_left _ hmem))
  rw [ofText, ofChars, hscreen, ok_bind]
  exact ofLexemes_of_check htrim (Screen.checkParentheses_trim hcheck) limits.maxDepth

/-- Parentheses and doubled quotes in quoted texts of either kind, and characters of more than one byte. -/
def quotedParentheses : String := "IF(\"é(\"\"\" = 'it''s )', (1), $größe)"

/-- Of the six parentheses of the text four are lexemes. -/
theorem parentheses_agree_quoted :
    '[' ∉ quotedParentheses.toList ∧
      (Lexemes.ofChars quotedParentheses.toList).ending = .finished 38 ∧
      Lexemes.parentheses (Lexemes.ofChars quotedParentheses.toList).items = [.U, .U, .D, .D] ∧
      Screen.check {} quotedParentheses.toList = .ok () ∧
      (∃ w : DyckWord, w.toList = [.U, .U, .D, .D]) ∧
      FailsWith (fun fault => fault.isUnclosed = false) (ofText {} quotedParentheses) := by
  have hbracket : '[' ∉ quotedParentheses.toList := by decide
  have hending : (Lexemes.ofChars quotedParentheses.toList).ending = .finished 38 := by decide +kernel
  have hitems : Lexemes.parentheses (Lexemes.ofChars quotedParentheses.toList).items = [.U, .U, .D, .D] := by
    decide +kernel
  have hscreen : Screen.check {} quotedParentheses.toList = .ok () := by decide +kernel
  obtain ⟨hcheck, hreader⟩ := parentheses_agree hbracket
  have hword := ((hcheck (by simp [hending])).mp (Screen.check_eq_ok_iff.mp hscreen).2.2.1).2
  exact ⟨hbracket, hending, hitems, hscreen, hitems ▸ hword, hreader {} hscreen⟩

end Expression

end Formulary
