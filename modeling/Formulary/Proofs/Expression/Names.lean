import Formulary.Proofs.Expression.Grammar
import Formulary.Proofs.Lexeme.Names

/-!
# The names in an expression and in its lexemes

An expression has its names from its lexemes: its variables are names among them, and its functions are
the upper case of the names before a parenthesis (`called`), besides those that operators stand for
(`Derives.functions`). All of the called names count.

In the lexemes of an expression, two that are no symbols never follow each other (`Derives.separated`).
-/

namespace Formulary

namespace Lexeme

/-- The names that an opening parenthesis follows. -/
def called : List Lexeme → List String
  | name s :: symbol .leftParen :: rest => s :: called rest
  | _ :: rest => called rest
  | [] => []

@[simp] theorem called_symbol_cons (s : Symbol) (ts : List Lexeme) :
    called (symbol s :: ts) = called ts := rfl

theorem name_mem_of_mem_called {ts : List Lexeme} {s : String} (h : s ∈ called ts) :
    name s ∈ ts := by
  fun_induction called ts with
  | case1 s' rest ih =>
    rcases List.mem_cons.mp h with rfl | h
    · exact List.mem_cons_self
    · exact List.mem_cons_of_mem _ (List.mem_cons_of_mem _ (ih h))
  | case2 t rest _ ih => exact List.mem_cons_of_mem _ (ih h)
  | case3 => exact absurd h (by simp)

/-- A symbol that opens no arguments makes no difference. -/
theorem called_append {s : Symbol} (hs : s ≠ .leftParen) (ts us : List Lexeme) :
    called (ts ++ symbol s :: us) = called ts ++ called us := by
  fun_induction called ts with
  | case1 s' rest ih =>
    change s' :: called (rest ++ symbol s :: us) = _
    rw [ih]
    rfl
  | case2 t rest hcall ih =>
    rw [List.cons_append, called.eq_2, ih]
    -- the symbol does not make a call of a name before it
    intro s' more ht hmore
    cases rest with
    | nil =>
      obtain ⟨hs', -⟩ := List.cons.inj hmore
      exact hs (by injection hs')
    | cons u rest =>
      obtain ⟨rfl, -⟩ := List.cons.inj hmore
      exact hcall s' rest ht rfl
  | case3 => rfl

theorem called_commaSeparated (tss : List (List Lexeme)) :
    called (commaSeparated tss) = tss.flatMap called := by
  induction tss with
  | nil => rfl
  | cons ts rest ih =>
    cases rest with
    | nil => simp
    | cons us rest =>
      rw [commaSeparated_cons_cons, called_append (by decide), ih]
      rfl

/-! ### Separation -/

namespace Separated

variable {ts us : List Lexeme}

theorem singleton (t : Lexeme) : Separated [t] := List.isChain_singleton t

theorem symbol_cons (s : Symbol) (h : Separated ts) : Separated (symbol s :: ts) :=
  List.isChain_cons.mpr ⟨fun _ _ => Or.inl rfl, h⟩

theorem append (s : Symbol) (h : Separated ts) (h' : Separated us) :
    Separated (ts ++ symbol s :: us) := by
  refine List.isChain_append.mpr ⟨h, h'.symbol_cons s, fun t _ u hu => Or.inr ?_⟩
  obtain rfl := Option.some.inj hu
  rfl

theorem commaSeparated {tss : List (List Lexeme)} (h : ∀ ts ∈ tss, Separated ts) :
    Separated (commaSeparated tss) :=
  commaSeparated_induction (P := Separated) List.isChain_nil
    (fun _ _ hts hus => hts.append .comma hus) h

end Separated

end Lexeme

namespace Expression

/-- The functions that operators stand for. -/
def operatorFunctions : List String := Operator.all.filterMap (·.function)

@[simp] theorem functions_literal (v : Value) : (literal v).functions = [] := rfl

@[simp] theorem functions_var (name : String) : (var name).functions = [] := rfl

@[simp] theorem mentions_literal (v : Value) : (literal v).mentions = [] := rfl

@[simp] theorem mentions_var (name : String) : (var name).mentions = [name] := rfl

theorem callsOfAll_eq (es : List Expression) : callsOfAll es = es.flatMap calls := by
  induction es with
  | nil => rfl
  | cons e rest ih => rw [callsOfAll, ih, List.flatMap_cons]

theorem mentionsOfAll_eq (es : List Expression) : mentionsOfAll es = es.flatMap mentions := by
  induction es with
  | nil => rfl
  | cons e rest ih => rw [mentionsOfAll, ih, List.flatMap_cons]

@[simp] theorem functions_call (f : String) (es : List Expression) :
    (call f es).functions = f :: es.flatMap functions := by
  rw [functions, calls, callsOfAll_eq, List.map_cons, List.map_flatMap]
  rfl

@[simp] theorem mentions_call (f : String) (es : List Expression) :
    (call f es).mentions = es.flatMap mentions := by
  rw [mentions, mentionsOfAll_eq]

end Expression

open Expression Lexeme

/-- A binary operator stands for functions of operators, and has the names of both operands. -/
theorem Joins.names {level : Level} {s : Symbol} {a b e : Expression} (h : Joins level s a b e) :
    (∃ own, (∀ f ∈ own, f ∈ operatorFunctions) ∧
      e.functions = own ++ (a.functions ++ b.functions)) ∧
      e.mentions = a.mentions ++ b.mentions := by
  have hcall (f : String) (hf : f ∈ operatorFunctions) : ∃ own,
      (∀ g ∈ own, g ∈ operatorFunctions) ∧
        (call f [a, b]).functions = own ++ (a.functions ++ b.functions) :=
    ⟨[f], by simpa using hf, by simp⟩
  have hnot (f : String) (hf : f ∈ operatorFunctions) : ∃ own,
      (∀ g ∈ own, g ∈ operatorFunctions) ∧
        (Expression.not (call f [a, b])).functions = own ++ (a.functions ++ b.functions) :=
    ⟨["NOT", f], by simpa using ⟨by decide, hf⟩, by simp [Expression.not]⟩
  cases h
  -- three comparisons are the negation of another one, so a second function stands for the operator
  case notEqual | lessEqual | greaterEqual =>
    exact ⟨hnot _ (by decide), by simp⟩
  all_goals exact ⟨hcall _ (by decide), by simp⟩

/-- The functions are those that the names call, in upper case, and some that operators stand for. -/
def CalledBy (names functions : List String) : Prop :=
  (∀ f ∈ functions, f ∈ operatorFunctions ∨ ∃ name ∈ names, f = Text.upperString name) ∧
    ∀ name ∈ names, Text.upperString name ∈ functions

namespace CalledBy

variable {names names' functions functions' : List String}

theorem nil : CalledBy [] [] := by simp [CalledBy]

theorem operators (h : CalledBy names functions) (own : List String)
    (hown : ∀ f ∈ own, f ∈ operatorFunctions) : CalledBy names (own ++ functions) := by
  refine ⟨fun f hf => ?_, fun name hname => List.mem_append_right own (h.2 name hname)⟩
  rcases List.mem_append.mp hf with hf | hf
  · exact Or.inl (hown f hf)
  · exact h.1 f hf

theorem append (h : CalledBy names functions) (h' : CalledBy names' functions') :
    CalledBy (names ++ names') (functions ++ functions') := by
  refine ⟨fun f hf => ?_, fun name hname => List.mem_append.mpr ?_⟩
  · rcases List.mem_append.mp hf with hf | hf
    · exact (h.1 f hf).imp_right fun ⟨s, hs, hupper⟩ =>
        ⟨s, List.mem_append_left _ hs, hupper⟩
    · exact (h'.1 f hf).imp_right fun ⟨s, hs, hupper⟩ =>
        ⟨s, List.mem_append_right _ hs, hupper⟩
  · exact (List.mem_append.mp hname).imp (h.2 name) (h'.2 name)

theorem cons (name : String) (h : CalledBy names functions) :
    CalledBy (name :: names) (Text.upperString name :: functions) :=
  have hname : CalledBy [name] [Text.upperString name] := by simp [CalledBy]
  hname.append h

theorem flatMap {α : Type} {l : List α} {f g : α → List String}
    (h : ∀ a ∈ l, CalledBy (f a) (g a)) : CalledBy (l.flatMap f) (l.flatMap g) := by
  induction l with
  | nil => exact nil
  | cons a rest ih =>
    obtain ⟨ha, hrest⟩ := List.forall_mem_cons.mp h
    exact ha.append (ih hrest)

end CalledBy

namespace Derives

variable {p : Phrase} {n : Nat} {ts : List Lexeme} {e : Expression}

theorem separated (h : Derives p n ts e) : Separated ts := by
  induction h with
  | operand _ ih => exact ih
  | join _ _ _ iha ihb => exact iha.append _ ihb
  | unsigned _ ih => exact ih
  | negativeNumber _ ih => exact ih.symbol_cons _
  | minus _ _ ih => exact ih.symbol_cons _
  | plus _ ih => exact ih.symbol_cons _
  | bang _ ih => exact ih.symbol_cons _
  | literal => exact .singleton _
  | var => exact .singleton _
  | bareName => exact .singleton _
  | call name arguments _ ih =>
    -- commas part the arguments, and the parentheses part them from what is around the call
    have harguments : Separated (commaSeparated (arguments.map (·.1))) := by
      refine .commaSeparated fun ts hts => ?_
      obtain ⟨a, ha, rfl⟩ := List.mem_map.mp hts
      exact ih a ha
    exact (Separated.singleton _).append .leftParen (harguments.append .rightParen List.isChain_nil)
  | parentheses _ ih => exact (ih.append _ List.isChain_nil).symbol_cons _

/-- The variables of an expression are names among its lexemes. -/
theorem exists_names_of_mem_mentions (h : Derives p n ts e) {name : String}
    (hname : name ∈ e.mentions) : ∃ t ∈ ts, t.Names name := by
  induction h with
  | operand _ ih => exact ih hname
  | join _ _ hjoin iha ihb =>
    -- an operator names nothing, so the name is that of an operand
    rw [hjoin.names.2, List.mem_append] at hname
    rcases hname with hname | hname
    · obtain ⟨t, ht, hnames⟩ := iha hname
      exact ⟨t, List.mem_append_left _ ht, hnames⟩
    · obtain ⟨t, ht, hnames⟩ := ihb hname
      exact ⟨t, List.mem_append_right _ (List.mem_cons_of_mem _ ht), hnames⟩
  | unsigned _ ih => exact ih hname
  | negativeNumber => exact absurd hname (by simp)
  | minus _ _ ih =>
    obtain ⟨t, ht, hnames⟩ := ih (by simpa using hname)
    exact ⟨t, List.mem_cons_of_mem _ ht, hnames⟩
  | plus _ ih =>
    obtain ⟨t, ht, hnames⟩ := ih hname
    exact ⟨t, List.mem_cons_of_mem _ ht, hnames⟩
  | bang _ ih =>
    obtain ⟨t, ht, hnames⟩ := ih (by simpa using hname)
    exact ⟨t, List.mem_cons_of_mem _ ht, hnames⟩
  | literal => exact absurd hname (by simp)
  | var n s => exact ⟨_, List.mem_singleton_self _, (List.mem_singleton.mp hname).symm⟩
  | bareName n s => exact ⟨_, List.mem_singleton_self _, (List.mem_singleton.mp hname).symm⟩
  | call f arguments _ ih =>
    -- the name of the function is no variable, so one of the arguments has the name
    rw [mentions_call, List.mem_flatMap] at hname
    obtain ⟨e, he, hname⟩ := hname
    obtain ⟨a, ha, rfl⟩ := List.mem_map.mp he
    obtain ⟨t, ht, hnames⟩ := ih a ha hname
    have hts := (sublist_commaSeparated (List.mem_map_of_mem (f := (·.1)) ha)).subset ht
    exact ⟨t, by simp [hts], hnames⟩
  | parentheses _ ih =>
    obtain ⟨t, ht, hnames⟩ := ih hname
    exact ⟨t, by simp [ht], hnames⟩

/-- The functions of an expression are called by its lexemes or stand for operators. -/
theorem functions (h : Derives p n ts e) : CalledBy (called ts) e.functions := by
  induction h with
  | operand _ ih => exact ih
  | @join _ s _ _ _ a b _ _ _ hjoin iha ihb =>
    obtain ⟨own, hown, hfunctions⟩ := hjoin.names.1
    -- an operator is no parenthesis, so a name in front of it is not called
    have hs : s ≠ .leftParen := by
      rintro rfl
      cases hjoin
    rw [hfunctions, called_append hs]
    exact (iha.append ihb).operators own hown
  | unsigned _ ih => exact ih
  | negativeNumber _ ih => exact ih
  | minus _ _ ih =>
    -- a sign stands for a function without a name of its own
    have hfunctions := ih.operators ["SUBTRACT"] (by decide)
    simpa using hfunctions
  | plus _ ih => exact ih
  | bang _ ih =>
    have hfunctions := ih.operators ["NOT"] (by decide)
    simpa using hfunctions
  | literal => exact .nil
  | var => exact .nil
  | bareName => exact .nil
  | call name arguments _ ih =>
    -- neither commas nor the closing parenthesis make a call
    have hcalled : called (commaSeparated (arguments.map (·.1)) ++ [symbol .rightParen]) =
        arguments.flatMap fun a => called a.1 := by
      rw [called_append (by decide), called_commaSeparated, List.flatMap_map]
      exact List.append_nil _
    rw [functions_call, List.flatMap_map, called, hcalled]
    exact .cons name (.flatMap ih)
  | parentheses _ ih =>
    rw [called_symbol_cons, called_append (by decide)]
    simpa [called] using ih

end Derives

end Formulary
