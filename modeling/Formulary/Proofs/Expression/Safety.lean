import Formulary.Proofs.Expression.Completeness
import Formulary.Proofs.Expression.Names
import Formulary.Proofs.Screen.UpperCase

/-!
# Names of expressions and the screen

What the screen for forbidden tokens is worth for the expression that is read. The names of the variables
are safe, since they stand in the text. Those of the functions stand there in some case, and are safe unless
the full upper case of one of them is a forbidden word that the screen did not see in it: exactly if no name
that is called is `Screen.Disguised` (`ofText_safe_iff`). That takes one of the nine `Screen.disguises`;
`ofText_file` is a text with one of them.
-/

namespace Formulary

open Screen (Standing endsInWord startsInWord)

/-- What stands in a text without the white space around it stands in the text. -/
theorem Text.standing_trim (text : List Char) : Standing false (trim text) text := by
  obtain ⟨after, hafter, htext⟩ := exists_trim text
  refine ⟨text.takeWhile isBlank, after, by rw [List.append_assoc, ← htext], ?_, ?_⟩
  · exact Screen.endsInWord_eq_false fun c hc =>
      isWordChar_of_isBlank (List.mem_takeWhile_imp hc)
  · exact Screen.startsInWord_eq_false_iff.mpr fun c hc =>
      isWordChar_of_isBlank (hafter c (List.mem_of_mem_head? hc))

namespace Expression

/-- The lexemes of a text. -/
def lexemesOf (text : String) : List Lexeme :=
  (Lexemes.ofChars (Text.trim text.toList)).items.map Located.lexeme

/-- The lexemes of a text derive the expression that is read from it, and are all that it holds. -/
theorem derives_lexemesOf {limits : Limits} {text : String} {e : Expression}
    (h : ofText limits text = .ok e) :
    Derives (.chain .disjunction) limits.maxDepth (lexemesOf text) e ∧
      ∃ position, (Lexemes.ofChars (Text.trim text.toList)).ending = .finished position := by
  obtain ⟨-, items, position, hlexemes, hderives⟩ := ofText_eq_ok_iff.mp h
  exact ⟨by rw [lexemesOf, hlexemes]; exact hderives, position, by rw [hlexemes]⟩

/-- The names among the lexemes of an expression stand in its text, and are safe with it. -/
theorem standing_of_names {limits : Limits} {text : String} {e : Expression}
    (h : ofText limits text = .ok e) {t : Lexeme} (ht : t ∈ lexemesOf text) {name : String}
    (hname : t.Names name) :
    Standing false name.toList text.toList ∧ Screen.isSafe name.toList = true ∧
      ∀ c ∈ name.toList, Lexeme.isNameChar c = true := by
  obtain ⟨hderives, position, hending⟩ := derives_lexemesOf h
  obtain ⟨hstanding, hchars⟩ : Standing false name.toList (Text.trim text.toList) ∧ _ :=
    Lexemes.standing_of_mem hending hderives.separated (by simp) ht hname
  have htext := hstanding.trans (Text.standing_trim text.toList)
  -- a forbidden token in the name would be one in the text, since the name's characters end where a word ends
  have hsafe := (Screen.check_eq_ok_iff.mp (ofText_eq_ok_iff.mp h).1).2.2.2
  exact ⟨htext, Screen.isSafe_of_standing htext hsafe, hchars⟩

theorem isSafe_of_mem_operatorFunctions {f : String} (h : f ∈ operatorFunctions) :
    Screen.isSafe f.toList = true := by
  have hsafe : ∀ f ∈ operatorFunctions, Screen.isSafe f.toList = true := Text.forall_mem_of_all rfl
  exact hsafe f h

/-- **Which names of an expression are safe.** Those of its variables are. Those of its functions are if
no name that the text calls is a disguised one, and not otherwise; there is none in a text without
disguises. -/
theorem ofText_safe_iff (limits : Limits) (text : String) (e : Expression)
    (h : ofText limits text = .ok e) :
    (∀ name ∈ e.mentions, Screen.isSafe name.toList = true) ∧
    ((∀ f ∈ e.functions, Screen.isSafe f.toList = true) ↔
      ∀ name ∈ Lexeme.called (lexemesOf text), ¬Screen.Disguised name.toList) ∧
    ((∀ c ∈ text.toList, c ∉ Screen.disguises) →
      ∀ f ∈ e.functions, Screen.isSafe f.toList = true) := by
  obtain ⟨hderives, -⟩ := derives_lexemesOf h
  have hcalled (name : String) (hname : name ∈ Lexeme.called (lexemesOf text)) :=
    standing_of_names h (Lexeme.name_mem_of_mem_called hname) (Eq.refl name)
  -- the name was safe as it is written; it is the upper case that the screen has not seen
  have hupper (name : String) (hname : name ∈ Lexeme.called (lexemesOf text)) :
      Screen.isSafe (Text.upperString name).toList = true ↔ ¬Screen.Disguised name.toList := by
    obtain ⟨-, hsafe, hchars⟩ := hcalled name hname
    rw [Text.upperString, String.toList_ofList]
    exact Screen.isSafe_upper_iff hchars hsafe
  have hfunctions : (∀ f ∈ e.functions, Screen.isSafe f.toList = true) ↔
      ∀ name ∈ Lexeme.called (lexemesOf text), ¬Screen.Disguised name.toList := by
    constructor
    · exact fun hsafe name hname => (hupper name hname).mp (hsafe _ (hderives.functions.2 name hname))
    · intro hnone f hf
      -- a function stands for an operator, whose name is fixed, or is called by its name in upper case
      rcases hderives.functions.1 f hf with hoperator | ⟨name, hname, rfl⟩
      · exact isSafe_of_mem_operatorFunctions hoperator
      · exact (hupper name hname).mpr (hnone name hname)
  refine ⟨fun name hname => ?_, hfunctions, fun hplain => hfunctions.mpr ?_⟩
  · -- a variable is one of the names in the text, which are left as they are written
    obtain ⟨t, ht, hnames⟩ := hderives.exists_names_of_mem_mentions hname
    exact (standing_of_names h ht hnames).2.1
  · rintro name hname ⟨word, hword, ⟨c, hc, hdisguise⟩, -⟩
    -- what disguises a name would be a character of the text
    have hstanding := hword.trans (hcalled name hname).1
    exact hplain c (hstanding.sublist.subset hc) hdisguise

/-! ### Two texts with a disguise -/

/-- A text that calls a name with the value of another. -/
theorem ofText_call {text name argument : String} {i j k l last : Nat}
    (hscreen : Screen.check {} text.toList = .ok ())
    (hlexemes : Lexemes.ofChars (Text.trim text.toList) =
      ⟨[⟨.name name, i⟩, ⟨.symbol .leftParen, j⟩, ⟨.name argument, k⟩, ⟨.symbol .rightParen, l⟩],
        .finished last⟩) :
    ofText {} text = .ok (callOf name [.var argument]) := by
  refine ofText_eq_ok_iff.mpr ⟨hscreen, _, _, hlexemes, ?_⟩
  refine (Derives.call (n := 63) name [([.name argument], .var argument)] ?_).chain_of_primary _
  rintro _ (_ | ⟨_, ⟨⟩⟩)
  exact (Derives.bareName 63 argument).chain_of_primary _

/-- `fußball(x)` calls `FUSSBALL`, which is no forbidden word. -/
theorem ofText_safe_iff_fussball :
    ofText {} "fußball(x)" = .ok (.call "FUSSBALL" [.var "x"]) ∧
      Screen.isSafe "x".toList = true ∧ ¬Screen.Disguised "fußball".toList := by
  have hlexemes : Lexemes.ofChars (Text.trim "fußball(x)".toList) =
      ⟨[⟨.name "fußball", 0⟩, ⟨.symbol .leftParen, 8⟩, ⟨.name "x", 9⟩, ⟨.symbol .rightParen, 10⟩],
        .finished 11⟩ := by decide +kernel
  have hread : ofText {} "fußball(x)" = .ok (.call "FUSSBALL" [.var "x"]) := by
    have hname : Text.upperString "fußball" = "FUSSBALL" := by decide
    rw [ofText_call (by decide +kernel) hlexemes, callOf, hname]
  obtain ⟨hvariables, hfunctions, -⟩ := ofText_safe_iff {} _ _ hread
  refine ⟨hread, hvariables "x" (by simp), hfunctions.mp (by decide) "fußball" ?_⟩
  rw [lexemesOf, hlexemes]
  exact List.mem_cons_self

/-- **A forbidden word that the screen lets pass.** The ligature that the text starts with becomes two
letters when the name of the function is put in upper case. -/
theorem ofText_file :
    ofText {} "\ufb01le(x)" = .ok (.call "FILE" [.var "x"]) ∧
      Screen.isSafe "FILE".toList = false := by
  have hlexemes : Lexemes.ofChars (Text.trim "\ufb01le(x)".toList) =
      ⟨[⟨.name "\ufb01le", 0⟩, ⟨.symbol .leftParen, 5⟩, ⟨.name "x", 6⟩, ⟨.symbol .rightParen, 7⟩],
        .finished 8⟩ := by decide +kernel
  have hname : Text.upperString "\ufb01le" = "FILE" := by decide
  exact ⟨by rw [ofText_call (by decide +kernel) hlexemes, callOf, hname], by decide⟩

end Expression

end Formulary
