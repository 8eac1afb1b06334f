import Formulary.Proofs.Document.Scanned
import Formulary.Proofs.Document.Settled
import Formulary.Proofs.Document.Soundness
import Formulary.Proofs.Evaluation.Resolution
import Formulary.Proofs.Expression.Rendering

/-!
# An option list as a literal and as a text

An option list can be written into an expression as a JSON array, which is a literal then, or as the text of
one that `STATIC` is called with. The literal is found by scanners and the text by the rules of quoted texts;
what is found is the same array, and both make the same options of it (`sameOptions_of_isArrayText`). Nothing
else than an array is ever read as a literal list (`Lexeme.isArrayText_of_read`).

There is one difference. A literal stands in the open, so that the check of parentheses goes through it, and
this check takes the quote behind a backslash for the end of a string. So the two agree exactly if the literal
passes that check or the call fails as well (`literal_agrees_iff`), for instance if no string of the array
holds a quote. `literal_differs_nail` is an array for which they do not.
-/

namespace Formulary

/-! ### Literals -/

/-- A text that says something, is not too long and holds no forbidden token has its parentheses checked. -/
theorem Screen.check_eq_checkParentheses {limits : Limits} {text : List Char}
    (hblank : Text.isAllBlank text = false) (hlength : text.length ≤ limits.maxLength)
    (hsafe : isSafe text = true) : check limits text = checkParentheses text := by
  have htoken : forbiddenToken? text = none := by
    rwa [isSafe, Option.isNone_iff_eq_none] at hsafe
  rw [check, if_neg (by simp [hblank]), if_neg (Nat.not_lt.mpr hlength), htoken]
  cases checkParentheses text <;> rfl

namespace Document

theorem IsGap.isBlank {gap : List Char} (h : IsGap gap) : ∀ c ∈ gap, Text.isBlank c = true :=
  h.forall_mem (by decide)

/-- A text that starts with a bracket is read as an array. -/
theorem exists_array_of_ofChars? {rest : List Char} {d : Document} (h : ofChars? ('[' :: rest) = some d) :
    ∃ items, d = .array items := by
  rw [ofChars?] at h
  split at h
  · exact absurd h (by simp)
  · next t ht =>
    have hvalue : (bracketed? ']' (value? 126) rest).map (fun t =>
        ((t.map array).widen (Nat.le_succ rest.length) : Taken Document ('[' :: rest))) = some t := ht
    obtain ⟨items, -, rfl⟩ := Option.map_eq_some_iff.mp hvalue
    split at h
    · exact ⟨_, (Option.some.inj h).symm⟩
    · exact absurd h (by simp)

/-- The text of an array without the white space around it, which makes no difference to a reader. -/
theorem IsArrayText.exists_trim {text : List Char} (h : IsArrayText escapes text) :
    ∃ inner, Text.trim text = '[' :: inner ∧ IsWritten escapes (.one .value) ('[' :: inner) ∧
      ofChars? text = ofChars? ('[' :: inner) := by
  obtain @⟨before, inner, after, hbefore, harray, hafter⟩ := h
  refine ⟨inner, ?_, harray, ofChars?_padded hbefore harray hafter⟩
  obtain ⟨content, rfl, -⟩ := harray.exists_of_array
  have hends := enclosed_of_ends (c := '[') (d := ']') (by decide) content (by decide)
  exact Text.trim_padded hbefore.isBlank hends.ne_nil hends.first hends.last hafter.isBlank

end Document

/-- **Whatever is read as a literal list is a JSON array.** -/
theorem Lexeme.isArrayText_of_read {position : Nat} {text : List Char} {t : Taken Lexeme ('[' :: text)}
    (h : read position ('[' :: text) = .ok (some t)) :
    Document.IsArrayText Document.escapes t.consumed := by
  rw [read_bracket, bracketed] at h
  cases hfound : brackets? .plain 0 ('[' :: text) with
  | none => simp [hfound, Except.map] at h
  | some found =>
    -- the scanner has gone behind the opening bracket at least
    obtain ⟨inner, hinner⟩ : ∃ inner, found.consumed = '[' :: inner := by
      have hshorter := found.shorter
      obtain ⟨n, hn⟩ := Nat.exists_eq_add_of_lt hshorter
      refine ⟨text.take n, ?_⟩
      rw [Taken.consumed, show ('[' :: text).length - found.rest.length = n + 1 by omega,
        List.take_succ_cons]
    rw [hfound] at h
    dsimp only at h
    cases hlist : optionList position found.consumed with
    | error fault => simp [hlist, Except.map] at h
    | ok v =>
      have htaken : (found.map fun _ => Lexeme.literal v) = t := by simpa [hlist, Except.map] using h
      obtain ⟨d, hread⟩ : ∃ d, Document.ofChars? found.consumed = some d := by
        rw [optionList] at hlist
        cases hread : Document.ofChars? found.consumed with
        | none => simp [hread] at hlist
        | some d => exact ⟨d, rfl⟩
      rw [hinner] at hread
      obtain ⟨items, rfl⟩ := Document.exists_array_of_ofChars? hread
      rw [← htaken]
      change Document.IsArrayText Document.escapes found.consumed
      rw [hinner]
      exact Document.isArrayText_of_ofChars? hread

namespace Expression

/-- An array on its own is read as the literal of its options, or not at all. -/
theorem ofLexemes_array {inner : List Char}
    (h : Document.IsWritten Document.escapes (.one .value) ('[' :: inner)) (maxDepth : Nat) :
    ofLexemes maxDepth (Lexemes.ofChars ('[' :: inner)) =
      (Lexeme.optionList 0 ('[' :: inner)).map .literal := by
  have hlexemes := Lexeme.ofCharsFrom_of_isEnclosed h.isEnclosed [] 0
  rw [List.append_nil] at hlexemes
  rw [Lexemes.ofChars, hlexemes]
  cases Lexeme.optionList 0 ('[' :: inner) with
  | error fault => rfl
  | ok v =>
    simp only [Except.map, Lexemes.ofCharsFrom_nil]
    exact ofLexemes_eq_ok_iff.mpr ((Derives.literal maxDepth v).chain_of_primary .disjunction)

/-- **An array is read as the literal of its options** where the check of parentheses passes it. -/
theorem ofChars_array {limits : Limits} {text : List Char}
    (h : Document.IsArrayText Document.escapes text) (hlength : text.length ≤ limits.maxLength)
    (hsafe : Screen.isSafe text = true) :
    ofChars limits text =
      Screen.checkParentheses text >>= fun _ =>
        (Lexeme.optionList 0 (Text.trim text)).map .literal := by
  have hblank : Text.isAllBlank text = false := by
    obtain ⟨hbefore, harray, hafter⟩ := h
    exact List.all_eq_false.mpr ⟨'[', by simp, by decide⟩
  obtain ⟨inner, htrim, harray, -⟩ := h.exists_trim
  rw [ofChars, Screen.check_eq_checkParentheses hblank hlength hsafe, htrim, ofLexemes_array harray]

/-! ### Calls of `STATIC` -/

/-- The text that calls `STATIC` with another text. -/
def staticText (json : String) : String :=
  String.ofList ("STATIC('".toList ++ Text.doubled '\'' json.toList ++ "')".toList)

/-- What it stands for. -/
def static (json : String) : Expression := .call "STATIC" [.literal (.string json)]

theorem toList_staticText (json : String) : (staticText json).toList = (static json).toChars := by
  have hfront : "STATIC('".toList = "STATIC".toList ++ ['(', '\''] := by decide
  have hback : "')".toList = ['\'', ')'] := by decide
  have harguments : toCharsOfEach [literal (.string json)] = [Text.quote '\'' json.toList] := rfl
  refine String.toList_ofList.trans ?_
  rw [static, toChars, harguments, List.intercalate_singleton, hfront, hback, Text.quote]
  simp only [List.append_assoc, List.cons_append, List.nil_append]

theorem writable_static (json : String) : (static json).Writable := by
  rw [static]
  refine .call ⟨'S', _, rfl, by decide⟩ (Text.forall_mem_of_all (by decide)) (by decide) ?_
  simp only [List.forall_mem_cons]
  exact ⟨.string json, by simp⟩

theorem ofText_static {limits : Limits} {json : String} (hdepth : 1 ≤ limits.maxDepth)
    (hlength : (staticText json).toList.length ≤ limits.maxLength)
    (hsafe : Screen.isSafe (staticText json).toList = true) :
    ofText limits (staticText json) = .ok (static json) := by
  -- the call is a writable expression, so what is written of it is read
  have h := writable_static json
  have hchars := toList_staticText json
  rw [hchars] at hlength hsafe
  obtain ⟨items, position, hlexemes, hitems⟩ := (h.reads Lexemes.delimits_nil).gives.ofChars
  rw [← Text.trim_eq_self h.enclosed.first h.enclosed.last] at hlexemes
  refine ofText_eq_ok_iff.mpr ⟨hchars ▸ h.check hlength hsafe, items, position, hchars ▸ hlexemes, ?_⟩
  exact hitems ▸ (h.derives.chain_of_primary .disjunction).mono hdepth

end Expression

theorem Registry.find?_builtin_static : builtin.find? "STATIC" = some Builtin.options[0] :=
  find?_builtin_of_mem (d := Builtin.options[0]) (by decide)

namespace Context

variable {c : Context} {limits : Limits} {json : String}

theorem evaluate_static (hscope : c.scope = .options)
    (hstatic : c.registry.find? "STATIC" = Registry.builtin.find? "STATIC") :
    c.evaluate (.static json) = (OptionList.ofText json).map .optionList := by
  have hresolve : c.resolve "STATIC" 1 = .ok Builtin.options[0] :=
    resolve_of_find? (hstatic.trans Registry.find?_builtin_static) (by decide) (by rw [hscope]; rfl)
  rw [Expression.static, evaluate, List.length_singleton, hresolve, ok_bind]
  -- the text is coerced to its options before the function is applied, which gives them back
  have hcoerce : Definition.coerceAll Builtin.options[0] [.string json] =
      ((OptionList.ofText json).map .optionList) >>= fun v => .ok [v] := rfl
  change (Definition.coerceAll Builtin.options[0] [.string json] >>= Eager.givenList) = _
  rw [hcoerce]
  cases OptionList.ofText json <;> rfl

end Context

/-! ### Both ways -/

/-- Both outcomes are the same option list, or both are faults. -/
def SameOptions (a b : Except Fault Value) : Prop :=
  (∃ options, a = .ok (.optionList options) ∧ b = .ok (.optionList options)) ∨
    ∃ fault fault', a = .error fault ∧ b = .error fault'

/-- **The literal and the text make the same options** of an array. -/
theorem sameOptions_of_isArrayText {json : String}
    (h : Document.IsArrayText Document.escapes json.toList) (position : Nat) :
    SameOptions (Lexeme.optionList position (Text.trim json.toList))
      ((OptionList.ofText json).map .optionList) := by
  obtain ⟨inner, htrim, -, hread⟩ := h.exists_trim
  rw [Lexeme.optionList, OptionList.ofText, Document.ofText?, htrim, hread]
  cases hdocument : Document.ofChars? ('[' :: inner) with
  | none => exact Or.inr ⟨_, _, rfl, rfl⟩
  | some d =>
    -- what has been read of an array is one, and both make options of its items
    obtain ⟨items, rfl⟩ := Document.exists_array_of_ofChars? hdocument
    simp only [Value.ofDocument?, OptionList.ofDocument, OptionList.ofItems]
    cases items.mapM OptionItem.ofDocument? with
    | error cause => exact Or.inr ⟨_, _, rfl, rfl⟩
    | ok options => exact Or.inl ⟨options, rfl, rfl⟩

namespace Context

variable {c : Context} {limits : Limits} {json : String}

/-- A literal yields its options where the check of parentheses passes it. -/
theorem evaluateText_array (hjson : Document.IsArrayText Document.escapes json.toList)
    (hlength : json.toList.length ≤ limits.maxLength) (hsafe : Screen.isSafe json.toList = true) :
    c.evaluateText limits json =
      Screen.checkParentheses json.toList >>= fun _ =>
        Lexeme.optionList 0 (Text.trim json.toList) := by
  rw [evaluateText, Expression.ofText, Expression.ofChars_array hjson hlength hsafe]
  cases Screen.checkParentheses json.toList with
  | error fault => rfl
  | ok _ => cases Lexeme.optionList 0 (Text.trim json.toList) <;> rfl

/-- A call of `STATIC` yields the options of its text. -/
theorem evaluateText_static (hscope : c.scope = .options)
    (hstatic : c.registry.find? "STATIC" = Registry.builtin.find? "STATIC") (hdepth : 1 ≤ limits.maxDepth)
    (hlength : (Expression.staticText json).toList.length ≤ limits.maxLength)
    (hsafe : Screen.isSafe (Expression.staticText json).toList = true) :
    c.evaluateText limits (Expression.staticText json) = (OptionList.ofText json).map .optionList := by
  rw [evaluateText, Expression.ofText_static hdepth hlength hsafe, ok_bind, evaluate_static hscope hstatic]

/-- **A literal agrees with the call of `STATIC`** exactly if it passes the check of parentheses or the call
fails as well. It does agree if no string in the array holds a quote. -/
theorem literal_agrees_iff (c : Context) (limits : Limits) (json : String) (hscope : c.scope = .options)
    (hstatic : c.registry.find? "STATIC" = Registry.builtin.find? "STATIC") (hdepth : 1 ≤ limits.maxDepth)
    (hjson : Document.IsArrayText Document.escapes json.toList)
    (hlength : json.toList.length ≤ limits.maxLength) (hsafe : Screen.isSafe json.toList = true)
    (hlength' : (Expression.staticText json).toList.length ≤ limits.maxLength)
    (hsafe' : Screen.isSafe (Expression.staticText json).toList = true) :
    (SameOptions (c.evaluateText limits json) (c.evaluateText limits (Expression.staticText json)) ↔
      Screen.checkParentheses json.toList = .ok () ∨
        ∃ fault, c.evaluateText limits (Expression.staticText json) = .error fault) ∧
    (Document.IsArrayText (Document.escapes.erase '"') json.toList →
      SameOptions (c.evaluateText limits json)
        (c.evaluateText limits (Expression.staticText json))) := by
  have hsame := sameOptions_of_isArrayText hjson 0
  rw [evaluateText_array hjson hlength hsafe, evaluateText_static hscope hstatic hdepth hlength' hsafe']
  refine ⟨?_, fun hquotes => ?_⟩
  · -- past the check both ways read the same options; before it only the literal can fail
    cases hcheck : Screen.checkParentheses json.toList with
    | ok _ => exact ⟨fun _ => Or.inl rfl, fun _ => hsame⟩
    | error fault =>
      constructor
      · rintro (⟨_, hliteral, -⟩ | ⟨_, fault', -, hfails⟩)
        · exact absurd hliteral (by simp)
        · exact Or.inr ⟨fault', hfails⟩
      · rintro (hpasses | ⟨fault', hfails⟩)
        · exact absurd hpasses (by simp)
        · exact Or.inr ⟨fault, fault', rfl, hfails⟩
  · -- without quotes in its strings an array passes the check
    rw [hquotes.checkParentheses (by decide)]
    exact hsame

/-! ### A list with an apostrophe and one with a quote -/

/-- Nothing is known but what options are. -/
def choosing : Context := { data := .empty, scope := .options, now := .origin }

open Document in
theorem isArrayText_apostrophe (letters : List Char) : IsArrayText letters "[\"it's\", 2]".toList := by
  have hspace : IsGap [' '] := by simp [IsGap, isSpace]
  have hbody : IsBody letters "it's".toList := isBody_of_forall (Text.forall_mem_of_all (by decide))
  have htwo : IsNumber ([] ++ (['2'] ++ ([] ++ []))) :=
    .intro (by simp) ⟨⟨by simp, by simp⟩, by simp⟩ .absent .absent
  have hitems : IsWritten letters (.several .value) _ :=
    .more isGap_nil (.string hbody) isGap_nil (.last hspace (.number htwo) isGap_nil)
  exact .intro isGap_nil (.array hitems) isGap_nil

theorem literal_agrees_apostrophe :
    Document.IsArrayText Document.escapes "[\"it's\", 2]".toList ∧
      Expression.staticText "[\"it's\", 2]" = "STATIC('[\"it''s\", 2]')" ∧
      SameOptions (choosing.evaluateText {} "[\"it's\", 2]")
        (choosing.evaluateText {} "STATIC('[\"it''s\", 2]')") := by
  have htext : Expression.staticText "[\"it's\", 2]" = "STATIC('[\"it''s\", 2]')" := by decide
  have hjson := isArrayText_apostrophe Document.escapes
  have hagrees := literal_agrees_iff choosing {} "[\"it's\", 2]" rfl rfl (by decide) hjson (by decide)
    rfl (by rw [htext]; decide) (by rw [htext]; rfl)
  rw [htext] at hagrees
  exact ⟨hjson, htext, hagrees.2 (isArrayText_apostrophe _)⟩

open Document in
theorem isArrayText_nail : IsArrayText escapes "[\"6\\\" nail\"]".toList := by
  have hrest : IsBody escapes " nail".toList := isBody_of_forall (Text.forall_mem_of_all (by decide))
  have hbody : IsBody escapes ('6' :: '\\' :: '"' :: " nail".toList) :=
    .plain (by decide) (by decide) (by decide) (.letter (by decide) hrest)
  exact .intro isGap_nil (.array (.last isGap_nil (.string hbody) isGap_nil)) isGap_nil

/-- **A quote in a string parts the two.** The literal is refused for a string that does not end, and the call
yields its option. -/
theorem literal_differs_nail :
    Document.IsArrayText Document.escapes "[\"6\\\" nail\"]".toList ∧
      Expression.staticText "[\"6\\\" nail\"]" = "STATIC('[\"6\\\" nail\"]')" ∧
      choosing.evaluateText {} "[\"6\\\" nail\"]" = .error (.unterminatedString 10) ∧
      choosing.evaluateText {} "STATIC('[\"6\\\" nail\"]')" =
        .ok (.optionList [⟨"6\" nail", "6\" nail"⟩]) := by
  have htext : Expression.staticText "[\"6\\\" nail\"]" = "STATIC('[\"6\\\" nail\"]')" := by decide
  have hcheck : Screen.checkParentheses "[\"6\\\" nail\"]".toList = .error (.unterminatedString 10) := by
    decide +kernel
  have hoptions : OptionList.ofText "[\"6\\\" nail\"]" = .ok [⟨"6\" nail", "6\" nail"⟩] := by
    decide +kernel
  refine ⟨isArrayText_nail, htext, ?_, ?_⟩
  · rw [evaluateText_array isArrayText_nail (by decide) rfl, hcheck]
    rfl
  · rw [← htext, evaluateText_static rfl rfl (by decide) (by rw [htext]; decide)
      (by rw [htext]; rfl), hoptions]
    rfl

end Context

end Formulary
