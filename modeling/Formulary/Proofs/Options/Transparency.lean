import Formulary.Engine
import Formulary.Proofs.Options.Agreement
import Formulary.Proofs.Options.Kept
import Formulary.Proofs.Options.Keys
import Formulary.Proofs.Options.Traced
import Mathlib.Data.List.Nodup

/-!
# When the cache of options cannot be noticed

An engine answers a run of requests for options, some of them from its cache. Its cache is
**transparent** for a set of calls if no run of these calls in which nothing expires (`Engine.Lasts`) is
answered in another way than each call for itself by an engine with an empty cache (`Engine.Transparent`).

That is not so for all calls. A key takes numbers for the same that differ in their scale or in the sign of
zero, whereas the text of a number shows both, and so does an option made from it. `transparent_iff` says
exactly when the cache is transparent: when no call is **mistaken** for another (`OptionsRules.Mistakes`).
It is so in particular for calls of which any two with equal numbers write them alike. Then the cache cannot
be noticed in a run in which entries expire either.

The invariant of a run is `OptionsRules.Backed`: every entry is what some call of the run resolved to. The key
of an entry need not be the key of that call, since a list that is computed anew goes to the entry that has the
same key; it is the same as the key of that call, and that is enough.
-/

namespace Formulary

/-- What an engine is asked for when it has a cache of options. -/
inductive OptionsRequest where
  /-- The options that a text yields for some data. -/
  | resolve (text : String) (data : FormData)
  /-- To drop what is cached. -/
  | clear
  /-- To let time go by. -/
  | wait (duration : Nat)

/-! ### One call -/

namespace OptionsRules

variable {rules : OptionsRules} {cache : OptionsCache} {text : String} {data other : FormData}

/-- What a text resolves to without a cache. -/
def outcome (rules : OptionsRules) (text : String) (data : FormData) :
    Except EngineFault (List OptionItem) :=
  match Expression.ofText rules.limits text with
  | .error fault => .error (.formula fault)
  | .ok e => (rules.options e data).outcome

/-- A text spells an expression whose options may be cached. -/
structure Cacheable (rules : OptionsRules) (text : String) (e : Expression) : Prop where
  /-- The text can be read. -/
  reads : Expression.ofText rules.limits text = .ok e
  /-- The expression does not depend on the time. -/
  steady : rules.registry.isVolatile e = false

/-- Every entry of a cache is what one of the calls resolves to. -/
def Backed (rules : OptionsRules) (calls : String → FormData → Prop) (cache : OptionsCache) : Prop :=
  ∀ entry, cache.Holds entry → ∃ text data e, calls text data ∧ rules.Cacheable text e ∧
    entry.key.same (.ofExpression text e data) = true ∧ rules.outcome text data = .ok entry.options

theorem outcome_of_ofText {e : Expression} (he : Expression.ofText rules.limits text = .ok e) :
    rules.outcome text data = (rules.options e data).outcome := by
  rw [outcome, he]

theorem outcome_congr (hagree : ∀ name, TextMentions rules.limits text name →
    data.get? name = other.get? name) : rules.outcome text data = rules.outcome text other := by
  cases he : Expression.ofText rules.limits text with
  | error fault => rw [outcome, outcome, he]
  | ok e =>
    -- the options depend on the names of the expression only
    have hoptions := options_congr rules fun name hname => hagree name ⟨e, he, hname⟩
    rw [outcome_of_ofText he, outcome_of_ofText he, hoptions]

/-- A list that is found is the answer. -/
theorem resolve_hit {e : Expression} (he : rules.Cacheable text e) {options : List OptionItem}
    (hfind : cache.find? (.ofExpression text e data) = some options) :
    ∃ stats, rules.resolve cache text data = (pure options, { cache with stats }) := by
  obtain ⟨stats, hget⟩ := cache.get_eq (.ofExpression text e data)
  refine ⟨stats, ?_⟩
  rw [resolve, he.reads]
  simp only [he.steady, Bool.false_eq_true, if_false, hget, hfind]

/-- A list that is not found is computed, and kept. -/
theorem resolve_miss {e : Expression} (he : rules.Cacheable text e) {options : List OptionItem}
    (hfind : cache.find? (.ofExpression text e data) = none)
    (houtcome : rules.outcome text data = .ok options) :
    ∃ stats, rules.resolve cache text data = (rules.options e data,
      OptionsCache.insert { cache with stats } (.ofExpression text e data) options) := by
  obtain ⟨stats, hget⟩ := cache.get_eq (.ofExpression text e data)
  refine ⟨stats, ?_⟩
  rw [outcome_of_ofText he.reads] at houtcome
  rw [resolve, he.reads]
  simp only [he.steady, Bool.false_eq_true, if_false, hget, hfind, houtcome]

/-- All that resolving a text can do: to compute the options and change no entry, to find them in the
cache, or to compute them and keep them. -/
theorem resolve_cases (rules : OptionsRules) (cache : OptionsCache) (text : String)
    (data : FormData) :
    ((rules.resolve cache text data).1.outcome = rules.outcome text data ∧
        ∃ stats, (rules.resolve cache text data).2 = { cache with stats }) ∨
      (∃ e options stats, rules.Cacheable text e ∧
        cache.find? (.ofExpression text e data) = some options ∧
          rules.resolve cache text data = (pure options, { cache with stats })) ∨
      ∃ e options stats, rules.Cacheable text e ∧
        cache.find? (.ofExpression text e data) = none ∧ rules.outcome text data = .ok options ∧
          rules.resolve cache text data = (rules.options e data,
            OptionsCache.insert { cache with stats } (.ofExpression text e data) options) := by
  cases he : Expression.ofText rules.limits text with
  | error fault =>
    -- what cannot be read is resolved to its fault, and the cache is not asked
    rw [resolve, outcome, he]
    exact Or.inl ⟨rfl, cache.stats, rfl⟩
  | ok e =>
    cases hvolatile : rules.registry.isVolatile e with
    | true =>
      -- what depends on the time is resolved without the cache
      rw [resolve, outcome_of_ofText he, he]
      dsimp only
      rw [if_pos hvolatile]
      exact Or.inl ⟨rfl, cache.stats, rfl⟩
    | false =>
      have hcacheable : rules.Cacheable text e := ⟨he, hvolatile⟩
      cases hfind : cache.find? (.ofExpression text e data) with
      | some options =>
        obtain ⟨stats, hresolve⟩ := resolve_hit hcacheable hfind
        exact Or.inr (Or.inl ⟨e, options, stats, hcacheable, hfind, hresolve⟩)
      | none =>
        cases houtcome : rules.outcome text data with
        | ok options =>
          obtain ⟨stats, hresolve⟩ := resolve_miss hcacheable hfind houtcome
          exact Or.inr (Or.inr ⟨e, options, stats, hcacheable, hfind, rfl, hresolve⟩)
        | error fault =>
          -- a list that could not be had is not kept
          obtain ⟨stats, hget⟩ := cache.get_eq (.ofExpression text e data)
          rw [outcome_of_ofText he] at houtcome
          rw [resolve, he]
          simp only [hvolatile, Bool.false_eq_true, if_false, hget, hfind, houtcome]
          exact Or.inl ⟨trivial, stats, rfl⟩

/-- The name of a field that holds a number yields the text of the number. -/
theorem outcome_of_number {name : String} {n : Decimal}
    (hreads : Expression.ofText rules.limits text = .ok (.var name))
    (hn : data.get? name = some (.number n)) (hmax : 1 ≤ rules.maxOptions) :
    rules.outcome text data = .ok [.ofText n.toText] := by
  -- the value is the number, and a number is an option by its text
  have hlookup : (rules.context data).evaluate (.var name) = .ok (.number n) := by
    rw [Context.evaluate, Context.lookup, Context.get?, context, hn]
    rfl
  have hitem : OptionList.ofValue (.number n) = .ok [.ofText n.toText] := rfl
  have hfew : ¬rules.maxOptions < [OptionItem.ofText n.toText].length := Nat.not_lt.mpr hmax
  rw [outcome_of_ofText hreads, options, walk, hlookup, Traced.ofExcept_ok, pure_bind, hitem,
    Traced.ofExcept_ok, pure_bind, if_neg hfew]
  rfl

/-! ### The invariant -/

/-- A call is mistaken for an earlier one of the same text: the fields mentioned hold the same values, and
yet the options of the earlier call are not what this call resolves to. -/
def Mistakes (rules : OptionsRules) (text : String) (earlier data : FormData) : Prop :=
  ∃ e options, rules.Cacheable text e ∧
    (∀ name ∈ e.mentions, Option.Rel Value.Same (earlier.get? name) (data.get? name)) ∧
      rules.outcome text earlier = .ok options ∧ rules.outcome text data ≠ .ok options

/-- A cache without entries is backed by any calls. -/
theorem backed_of_not_stores (h : ∀ entry, ¬cache.Stores entry) (calls : String → FormData → Prop) :
    rules.Backed calls cache := by
  rintro entry ⟨since, hentry⟩
  exact absurd hentry (h _)

/-- **What is found is what the call resolves to**, if the cache is backed by calls that the call is not
mistaken for. -/
theorem Backed.outcome_eq {calls : String → FormData → Prop} (hbacked : rules.Backed calls cache)
    {e : Expression} (he : rules.Cacheable text e) {options : List OptionItem}
    (hfind : cache.find? (.ofExpression text e data) = some options)
    (hcalls : ∀ earlier, calls text earlier → ¬rules.Mistakes text earlier data) :
    rules.outcome text data = .ok options := by
  obtain ⟨entry, hentry, hsame, rfl⟩ := OptionsCache.exists_holds_of_find? hfind
  obtain ⟨text', earlier, e', hcall, he', hkey, houtcome⟩ := hbacked entry hentry
  -- the entry may have been made by a call with another key, but by one that is the same
  replace hsame := CacheKey.same_trans (CacheKey.same_symm hkey) hsame
  -- the keys have the same text, so they are keys of one expression
  obtain rfl : text' = text := CacheKey.expression_eq_of_same hsame
  obtain rfl : e' = e := Except.ok.inj (he'.reads.symm.trans he.reads)
  -- otherwise the call would be mistaken for the one that made the entry
  by_contra hne
  refine hcalls earlier hcall ?_
  exact ⟨e', entry.options, he, CacheKey.same_ofExpression_iff.mp hsame, houtcome, hne⟩

/-- **A backed cache answers a call for itself**, if no call that backs it can be mistaken for it. -/
theorem Backed.answer {calls : String → FormData → Prop} (hbacked : rules.Backed calls cache)
    (hcalls : ∀ earlier, calls text earlier → ¬rules.Mistakes text earlier data) :
    (rules.resolve cache text data).1.outcome = rules.outcome text data := by
  rcases resolve_cases rules cache text data with ⟨houtcome, -⟩ |
    ⟨e, options, stats, he, hfind, hresolve⟩ | ⟨e, options, stats, he, -, -, hresolve⟩
  · exact houtcome
  · -- found in the cache
    rw [hresolve, hbacked.outcome_eq he hfind hcalls]
    rfl
  · rw [hresolve, outcome_of_ofText he.reads]

/-- **A call keeps the cache backed**, whether entries have expired or not. -/
theorem Backed.resolve {calls : String → FormData → Prop} (hbacked : rules.Backed calls cache)
    (hcall : calls text data) : rules.Backed calls (rules.resolve cache text data).2 := by
  rcases resolve_cases rules cache text data with ⟨-, stats, hcache⟩ |
    ⟨_, _, stats, -, -, hresolve⟩ | ⟨e, options, stats, he, -, houtcome, hresolve⟩
  · rw [hcache]
    exact hbacked
  · rw [hresolve]
    exact hbacked
  · rw [hresolve]
    rintro entry ⟨since, hentry⟩
    rcases OptionsCache.stores_insert hentry with ⟨hsame, hoptions, -⟩ | hbefore
    · -- the one entry that has another list has what this call resolves to
      refine ⟨text, data, e, hcall, he, hsame, ?_⟩
      rw [houtcome, ← hoptions]
    · exact hbacked entry ⟨since, hbefore⟩

end OptionsRules

/-! ### A run -/

namespace Engine

/-- The answers of an engine to a run of requests for options. -/
def answers (e : Engine) : List OptionsRequest → List (Except EngineFault (List OptionItem))
  | [] => []
  | .resolve text data :: rest =>
    (e.resolve data text).1.outcome :: (e.resolve data text).2.answers rest
  | .clear :: rest => e.clearCache.answers rest
  | .wait duration :: rest => (e.wait duration).answers rest

/-- The answers to the same requests if the cache is emptied before each. -/
def freshAnswers (e : Engine) : List OptionsRequest → List (Except EngineFault (List OptionItem))
  | [] => []
  | .resolve text data :: rest => (e.clearCache.resolve data text).1.outcome :: e.freshAnswers rest
  | .clear :: rest => e.freshAnswers rest
  | .wait _ :: rest => e.freshAnswers rest

/-- No entry expires in a run of requests: whenever options are asked for, all that is cached still counts. -/
def Lasts (e : Engine) : List OptionsRequest → Prop
  | [] => True
  | .resolve text data :: rest => e.cache.Fresh ∧ (e.resolve data text).2.Lasts rest
  | .clear :: rest => e.clearCache.Lasts rest
  | .wait duration :: rest => (e.wait duration).Lasts rest

/-- A run of requests resolves these calls and no others. -/
def Asks (calls : String → FormData → Prop) (requests : List OptionsRequest) : Prop :=
  ∀ text data, .resolve text data ∈ requests → calls text data

/-- No run of these calls in which nothing expires is answered in another way than each call for itself. -/
def Transparent (e : Engine) (calls : String → FormData → Prop) : Prop :=
  ∀ requests, Asks calls requests → e.Lasts requests → e.answers requests = e.freshAnswers requests

variable {e : Engine} {calls : String → FormData → Prop}

/-- An empty cache leaves each call to itself. -/
theorem outcome_clearCache (e : Engine) (text : String) (data : FormData) :
    (e.clearCache.resolve data text).1.outcome = e.optionsRules.outcome text data := by
  -- no call backs it, so there is none that this one could be mistaken for
  have hbacked : e.optionsRules.Backed (fun _ _ => False) e.cache.clear :=
    OptionsRules.backed_of_not_stores (fun _ => OptionsCache.not_stores_clear) _
  exact hbacked.answer fun _ hcall => hcall.elim

/-- What each call for itself is answered does not depend on the cache. -/
theorem freshAnswers_congr {e d : Engine} (h : e.optionsRules = d.optionsRules)
    (requests : List OptionsRequest) : e.freshAnswers requests = d.freshAnswers requests := by
  induction requests with
  | nil => rfl
  | cons request rest ih =>
    cases request with
    | resolve text data =>
      rw [freshAnswers, freshAnswers, outcome_clearCache, outcome_clearCache, h, ih]
    | clear => exact ih
    | wait duration => exact ih

/-- **A run that starts from a backed cache** answers each call for itself, if no call of it is
mistaken for another. Entries may expire or not: a list that is computed anew is an answer for itself. -/
theorem answers_eq_freshAnswers (hbacked : e.optionsRules.Backed calls e.cache)
    (hcalls : ∀ text earlier data, calls text earlier → calls text data →
      ¬e.optionsRules.Mistakes text earlier data)
    (requests : List OptionsRequest) (hrequests : Asks calls requests) :
    e.answers requests = e.freshAnswers requests := by
  induction requests generalizing e with
  | nil => rfl
  | cons request rest ih =>
    have hrest : Asks calls rest := by
      intro text data hmem
      exact hrequests text data (List.mem_cons_of_mem _ hmem)
    -- the rules stay the same all along, so what is backed before is backed afterwards
    cases request with
    | clear =>
      have hclear : e.clearCache.optionsRules.Backed calls e.clearCache.cache :=
        OptionsRules.backed_of_not_stores (fun _ => OptionsCache.not_stores_clear) calls
      have hrules : e.clearCache.optionsRules = e.optionsRules := rfl
      rw [answers, freshAnswers, ih hclear hcalls hrest, freshAnswers_congr hrules]
    | wait duration =>
      have hrules : (e.wait duration).optionsRules = e.optionsRules := rfl
      have hwait : (e.wait duration).optionsRules.Backed calls (e.wait duration).cache := hbacked
      rw [answers, freshAnswers, ih hwait hcalls hrest, freshAnswers_congr hrules]
    | resolve text data =>
      have hcall : calls text data := hrequests text data List.mem_cons_self
      have hanswer : (e.resolve data text).1.outcome = e.optionsRules.outcome text data :=
        hbacked.answer fun earlier hearlier => hcalls text earlier data hearlier hcall
      have hlater : (e.resolve data text).2.answers rest =
          (e.resolve data text).2.freshAnswers rest := ih (hbacked.resolve hcall) hcalls hrest
      have hrules : (e.resolve data text).2.optionsRules = e.optionsRules := rfl
      rw [answers, freshAnswers, outcome_clearCache, hanswer, hlater, freshAnswers_congr hrules]

/-- **The options of an earlier call are given again** to a call whose fields hold the same values, and in
between nothing expires. -/
theorem answers_pair {config : CacheConfig} {spread : CacheKey → Nat}
    (hcache : e.cache = .empty config spread) (hlifetime : config.lifetime ≠ 0)
    (hspread : ∀ a b : CacheKey, a.same b = true → spread a = spread b) {text : String}
    {expression : Expression} (he : e.optionsRules.Cacheable text expression)
    {earlier data : FormData} (hagree : ∀ name ∈ expression.mentions,
      Option.Rel Value.Same (earlier.get? name) (data.get? name))
    {options : List OptionItem} (hearlier : e.optionsRules.outcome text earlier = .ok options) :
    e.Lasts [.resolve text earlier, .resolve text data] ∧
      e.answers [.resolve text earlier, .resolve text data] = [.ok options, .ok options] := by
  -- fields with the same values make the same key
  have hsame : (CacheKey.ofExpression text expression earlier).same
      (.ofExpression text expression data) = true := CacheKey.same_ofExpression_iff.mpr hagree
  have hnone : e.cache.find? (.ofExpression text expression earlier) = none := by
    rw [hcache]
    exact OptionsCache.find?_eq_none fun _ hentry => absurd hentry OptionsCache.not_stores_empty
  obtain ⟨stats, hfirst⟩ := OptionsRules.resolve_miss he hnone hearlier
  -- the first call keeps its list, which is found in the second
  have hkept : (e.resolve earlier text).2.cache = OptionsCache.insert
      { OptionsCache.empty config spread with stats } (.ofExpression text expression earlier) options := by
    change (e.optionsRules.resolve e.cache text earlier).2 = _
    rw [hfirst, hcache]
  have hfind : (e.resolve earlier text).2.cache.find? (.ofExpression text expression data) =
      some options := by
    -- there is at least one shard, in which the list has been put
    have hshards : List.replicate config.shardCount ({} : Shard) ≠ [] := by
      refine List.length_pos_iff.mp ?_
      rw [List.length_replicate]
      exact config.shardCount_pos
    rw [hkept]
    exact OptionsCache.find?_insert_of_same hlifetime hshards hsame (hspread _ _ hsame)
  obtain ⟨stats', hsecond⟩ := OptionsRules.resolve_hit he hfind
  -- the first call computes its options, and the second is given what was found
  have hanswer : (e.resolve earlier text).1.outcome = .ok options := by
    change (e.optionsRules.resolve e.cache text earlier).1.outcome = _
    rw [hfirst, ← hearlier, OptionsRules.outcome_of_ofText he.reads]
  have hanswer' : ((e.resolve earlier text).2.resolve data text).1.outcome = .ok options := by
    change (e.optionsRules.resolve (e.resolve earlier text).2.cache text data).1.outcome = _
    rw [hsecond]
    rfl
  refine ⟨⟨?_, ?_, trivial⟩, ?_⟩
  · rw [hcache]
    exact .empty
  · -- no time goes by between the calls
    rw [hkept]
    exact OptionsCache.Fresh.insert .empty hlifetime _ _
  · rw [answers, answers, answers, hanswer, hanswer']

/-- The length of the expression spreads the same keys to the same shard. -/
theorem spread_congr (a b : CacheKey) (h : a.same b = true) : spread a = spread b := by
  rw [spread, spread, CacheKey.expression_eq_of_same h]

/-- An engine with an empty cache and nothing set. -/
def initial : Engine := .new .origin {}

/-- **When the cache cannot be noticed.** For an engine that starts with an empty cache, in which a list counts
at least at first, and that spreads the same keys to the same shard: the cache is transparent for some calls
exactly when none of them is mistaken for another one. So it is if all equal values of the fields mentioned
are identical, that is, if equal numbers are written alike. If no call is mistaken for another, runs in which
entries expire are answered like those in which none does. -/
theorem transparent_iff (e : Engine) (config : CacheConfig) (spread : CacheKey → Nat)
    (hcache : e.cache = .empty config spread) (hlifetime : config.lifetime ≠ 0)
    (hspread : ∀ a b : CacheKey, a.same b = true → spread a = spread b)
    (calls : String → FormData → Prop) :
    (e.Transparent calls ↔ ∀ text earlier data, calls text earlier → calls text data →
      ¬e.optionsRules.Mistakes text earlier data) ∧
    ((∀ text earlier data, calls text earlier → calls text data →
      ∀ name, TextMentions e.limits text name →
        Option.Rel Value.Same (earlier.get? name) (data.get? name) →
          earlier.get? name = data.get? name) → e.Transparent calls) ∧
    (e.Transparent calls → ∀ requests, Asks calls requests →
      e.answers requests = e.freshAnswers requests) := by
  -- an empty cache is backed by any calls
  have hbacked : e.optionsRules.Backed calls e.cache := by
    rw [hcache]
    exact OptionsRules.backed_of_not_stores (fun _ => OptionsCache.not_stores_empty) calls
  have hnecessary : e.Transparent calls → ∀ text earlier data, calls text earlier → calls text data →
      ¬e.optionsRules.Mistakes text earlier data := by
    -- a mistake shows in the run of the two calls
    intro htransparent text earlier data hearlier hdata hmistakes
    obtain ⟨expression, options, he, hagree, hoptions, hne⟩ := hmistakes
    have hrequests : Asks calls [.resolve text earlier, .resolve text data] := by
      intro text' data' hmem
      simp only [List.mem_cons, OptionsRequest.resolve.injEq, List.not_mem_nil, or_false] at hmem
      rcases hmem with ⟨rfl, rfl⟩ | ⟨rfl, rfl⟩
      · exact hearlier
      · exact hdata
    obtain ⟨hlasts, hpair⟩ := answers_pair hcache hlifetime hspread he hagree hoptions
    have hrun := htransparent _ hrequests hlasts
    rw [hpair] at hrun
    simp only [freshAnswers, outcome_clearCache, List.cons.injEq] at hrun
    exact hne hrun.2.1.symm
  refine ⟨⟨hnecessary, ?_⟩, ?_, ?_⟩
  · intro hcalls requests hrequests _
    exact answers_eq_freshAnswers hbacked hcalls requests hrequests
  · -- calls with identical inputs resolve alike, so none can be mistaken for another
    intro hidentical requests hrequests _
    refine answers_eq_freshAnswers hbacked ?_ requests hrequests
    rintro text earlier data hearlier hdata ⟨expression, options, he, hagree, hoptions, hne⟩
    have hsame : e.optionsRules.outcome text earlier = e.optionsRules.outcome text data := by
      refine OptionsRules.outcome_congr fun name hname => ?_
      obtain ⟨expression', he', hmention⟩ := hname
      obtain rfl : expression' = expression := Except.ok.inj (he'.symm.trans he.reads)
      exact hidentical text earlier data hearlier hdata name ⟨_, he', hmention⟩
        (hagree name hmention)
    exact hne (hsame.symm.trans hoptions)
  · intro htransparent
    exact answers_eq_freshAnswers hbacked (hnecessary htransparent)

/-- The same call may be repeated as often as one likes. -/
theorem transparent_initial_repeat :
    initial.Transparent fun text data => text = "price" ∧ data = .ofList [("price", .null)] :=
  (transparent_iff initial {} spread rfl (by decide) spread_congr _).2.1
    fun _ _ _ hearlier hdata _ _ _ => by rw [hearlier.2, hdata.2]

/-! ### Numbers that are written differently -/

/-- The number one, written with one place. -/
def tenTenths : Decimal := ⟨false, 10, 1, by decide, by decide⟩

/-- The number one, written with two places. -/
def hundredHundredths : Decimal := ⟨false, 100, 2, by decide, by decide⟩

/-- Form data that hold a price and nothing else. -/
def priced (n : Decimal) : FormData := .ofList [("price", .number n)]

theorem ofText_price : Expression.ofText {} "price" = .ok (.var "price") := by
  have hscreen : Screen.check {} "price".toList = .ok () := by decide +kernel
  have hlexemes : Lexemes.ofChars (Text.trim "price".toList) = ⟨[⟨.name "price", 0⟩], .finished 5⟩ := by
    decide +kernel
  rw [Expression.ofText, Expression.ofChars, hscreen, hlexemes]
  simp [Expression.ofLexemes, Expression.Rules.chain, Expression.Rules.chainFrom,
    Expression.Rules.operand, Expression.Rules.signed, Expression.Rules.primary, Lexemes.pass,
    bind, Except.bind, pure, Except.pure]

/-- **An answer that is out of date**: the price has been written with another place, and the option still
shows it without. -/
theorem answers_ne_freshAnswers_price :
    initial.Lasts
        [.resolve "price" (priced tenTenths), .resolve "price" (priced hundredHundredths)] ∧
    initial.answers
        [.resolve "price" (priced tenTenths), .resolve "price" (priced hundredHundredths)] =
      [.ok [.ofText "1.0"], .ok [.ofText "1.0"]] ∧
    initial.freshAnswers
        [.resolve "price" (priced tenTenths), .resolve "price" (priced hundredHundredths)] =
      [.ok [.ofText "1.0"], .ok [.ofText "1.00"]] := by
  have hmax : 1 ≤ initial.optionsRules.maxOptions := by decide
  have houtcome (n : Decimal) :
      initial.optionsRules.outcome "price" (priced n) = .ok [.ofText n.toText] :=
    OptionsRules.outcome_of_number ofText_price rfl hmax
  have hten : tenTenths.toText = "1.0" := by decide
  have hhundred : hundredHundredths.toText = "1.00" := by decide
  have hcacheable : initial.optionsRules.Cacheable "price" (.var "price") := ⟨ofText_price, rfl⟩
  -- the two prices are the same number, so the second call finds what the first has left
  have hagree : ∀ name ∈ Expression.mentions (.var "price"),
      Option.Rel Value.Same ((priced tenTenths).get? name) ((priced hundredHundredths).get? name) := by
    intro name hname
    obtain rfl := List.mem_singleton.mp hname
    exact .some (by decide)
  obtain ⟨hlasts, hpair⟩ :=
    answers_pair rfl (by decide) spread_congr hcacheable hagree (houtcome tenTenths)
  refine ⟨hlasts, ?_, ?_⟩
  · rw [hpair, hten]
  · rw [freshAnswers, freshAnswers, freshAnswers, outcome_clearCache, outcome_clearCache, houtcome,
      houtcome, hten, hhundred]

end Engine

end Formulary
