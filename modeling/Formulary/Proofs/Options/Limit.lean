import Formulary.Proofs.Expression.Completeness
import Formulary.Proofs.Options.Interpretation
import Formulary.Proofs.Options.Transparency

/-!
# No list is too long, and a failure leaves the cache alone

An option list that is found in the cache is given as it is, without another look at its length. That no
list is longer than the rules allow is therefore a matter of what has been kept: `OptionsCache.Bounded` says
it of all entries, and every operation preserves it.

`Engine.resolve_limited` says so of every engine that can be reached (`Engine.Reached`), and says what else
resolving does to the cache: a failure changes no entry and no order, and at most one more miss is counted;
an expression that depends on the time changes nothing at all. An entry that has expired is no exception: it is
not found, so its expression is resolved anew, and if that fails the entry stays where it is
(`Engine.resolve_limited_outdated` is such a case).

## Implementation notes

A resolution that waits for a provider has already looked into the cache, and keeps its list only when the
provider has answered. In the meantime others may have their turn, so `Engine.Reached` has the two halves of
a resolution apart as well.
-/

namespace Formulary

/-! ### What is kept -/

namespace OptionsCache

variable {c : OptionsCache} {key : CacheKey} {options : List OptionItem} {limit : Nat}

/-- No list that is kept is longer than the limit. -/
def Bounded (c : OptionsCache) (limit : Nat) : Prop :=
  ∀ entry, c.Holds entry → entry.options.length ≤ limit

namespace Bounded

theorem empty (config : CacheConfig) (spread : CacheKey → Nat) (limit : Nat) :
    (OptionsCache.empty config spread).Bounded limit := by
  rintro entry ⟨since, hentry⟩
  exact absurd hentry not_stores_empty

theorem clear (c : OptionsCache) (limit : Nat) : c.clear.Bounded limit := by
  rintro entry ⟨since, hentry⟩
  exact absurd hentry not_stores_clear

theorem get (h : c.Bounded limit) (key : CacheKey) : (c.get key).2.Bounded limit := by
  obtain ⟨stats, hget⟩ := c.get_eq key
  rw [hget]
  exact h

theorem insert (h : c.Bounded limit) (hoptions : options.length ≤ limit) (key : CacheKey) :
    (c.insert key options).Bounded limit := by
  rintro entry ⟨since, hentry⟩
  rcases stores_insert hentry with ⟨-, rfl, -⟩ | hbefore
  · exact hoptions
  · exact h entry ⟨since, hbefore⟩

theorem find? (h : c.Bounded limit) (hfind : c.find? key = some options) : options.length ≤ limit := by
  obtain ⟨entry, hentry, -, rfl⟩ := exists_holds_of_find? hfind
  exact h entry hentry

end Bounded

end OptionsCache

/-! ### One resolution -/

namespace OptionsRules

variable {rules : OptionsRules} {cache : OptionsCache} {text : String} {data : FormData}

/-- A list that comes of an expression is not too long. -/
theorem length_le_of_outcome {e : Expression} {options : List OptionItem}
    (h : (rules.options e data).outcome = .ok options) : options.length ≤ rules.maxOptions := by
  rw [OptionsRules.options] at h
  obtain ⟨v, -, h⟩ := Traced.outcome_bind_eq_ok h
  obtain ⟨found, -, h⟩ := Traced.outcome_bind_eq_ok h
  split at h
  · exact absurd (Traced.ofExcept_outcome_eq_ok h) (by simp)
  · next hfew =>
    obtain rfl := Except.ok.inj h
    exact Nat.le_of_not_lt hfew

/-- **One resolution** gives no list that is too long, and keeps none. -/
theorem resolve_bounded (rules : OptionsRules) (h : cache.Bounded rules.maxOptions) (text : String)
    (data : FormData) :
    (rules.resolve cache text data).2.Bounded rules.maxOptions ∧
      ∀ options, (rules.resolve cache text data).1.outcome = .ok options →
        options.length ≤ rules.maxOptions := by
  -- what is computed has been measured
  have hfresh : ∀ options, rules.outcome text data = .ok options →
      options.length ≤ rules.maxOptions := by
    intro options houtcome
    cases he : Expression.ofText rules.limits text with
    | error fault => simp [outcome, he] at houtcome
    | ok e => exact length_le_of_outcome ((outcome_of_ofText he).symm.trans houtcome)
  rcases resolve_cases rules cache text data with ⟨houtcome, stats, hcache⟩ |
    ⟨e, options, stats, -, hfind, hresolve⟩ | ⟨e, options, stats, he, -, houtcome, hresolve⟩
  · rw [hcache, houtcome]
    exact ⟨h, hfresh⟩
  · -- found, and given without another look at its length
    rw [hresolve]
    refine ⟨h, fun found hfound => ?_⟩
    obtain rfl := Except.ok.inj hfound
    exact h.find? hfind
  · -- computed and kept: what is kept is what is given
    rw [hresolve, ← outcome_of_ofText he.reads]
    exact ⟨OptionsCache.Bounded.insert h (hfresh options houtcome) _, hfresh⟩

/-- **A failure leaves the cache as it was**, but for one more miss if the cache was asked. -/
theorem resolve_of_error (rules : OptionsRules) {fault : EngineFault}
    (h : (rules.resolve cache text data).1.outcome = .error fault) :
    (rules.resolve cache text data).2 = cache ∨
      (rules.resolve cache text data).2 = { cache with stats.misses := cache.stats.misses + 1 } := by
  rw [resolve] at h ⊢
  cases he : Expression.ofText rules.limits text with
  | error cause => exact Or.inl rfl
  | ok e =>
    simp only [he] at h ⊢
    split
    · exact Or.inl rfl
    · next hsteady =>
      rw [if_neg hsteady] at h
      -- from here on the cache has been asked
      rw [OptionsCache.get] at h ⊢
      cases hfind : cache.find? (.ofExpression text e data) with
      | some options =>
        -- what is found is no failure
        simp only [hfind] at h
        exact absurd h (by simp [pure])
      | none =>
        simp only [hfind] at h ⊢
        cases houtcome : (rules.options e data).outcome with
        | error cause => exact Or.inr rfl
        | ok options => simp [houtcome] at h

/-- An expression that depends on the time is resolved without the cache. -/
theorem resolve_of_isVolatile {e : Expression} (he : Expression.ofText rules.limits text = .ok e)
    (hvolatile : rules.registry.isVolatile e = true) (cache : OptionsCache) (data : FormData) :
    rules.resolve cache text data = (rules.options e data, cache) := by
  rw [resolve, he]
  exact if_pos hvolatile

end OptionsRules

/-! ### The engines that can be reached -/

namespace Engine

/-- An engine that can be reached from one with an empty cache, by resolving the expressions of one field or
of many and by clearing the cache. Filtering options yields no other engine. -/
inductive Reached : Engine → Prop where
  /-- Nothing is cached at the beginning. -/
  | start {e : Engine} (config : CacheConfig) (spread : CacheKey → Nat)
    (h : e.cache = .empty config spread) : Reached e
  | resolve {e : Engine} (h : Reached e) (data : FormData) (text : String) :
    Reached (e.resolve data text).2
  | resolveMany {e : Engine} (h : Reached e) (data : FormData) (fields : List Field)
    (resolved : NameMap (List OptionItem)) (calls : List ProviderCall) :
    Reached (e.resolveMany data fields resolved calls).2.2
  | clear {e : Engine} (h : Reached e) : Reached e.clearCache
  /-- Time goes on, so that entries may expire, and providers may answer otherwise than before. -/
  | meanwhile {e : Engine} (h : Reached e) (now : DateTime) (providers : Providers) (duration : Nat) :
    Reached { e.wait duration with now, providers }
  /-- The first half of a resolution that waits for a provider. -/
  | lookUp {e : Engine} (h : Reached e) (key : CacheKey) :
    Reached { e with cache := (e.cache.get key).2 }
  /-- The second half of a resolution that has waited: the list that it has come to is kept. -/
  | keep {e : Engine} (h : Reached e) {text : String} {expression : Expression}
    (he : e.optionsRules.Cacheable text expression) {data : FormData} {options : List OptionItem}
    (hoptions : (e.optionsRules.options expression data).outcome = .ok options) :
    Reached { e with cache := e.cache.insert (.ofExpression text expression data) options }

variable {e : Engine}

/-- The options of a field that has an expression come first, those of the others after it. -/
theorem resolveMany_cons {f : Field} {text : String} (hf : f.dynamicOptions = some text)
    (e : Engine) (data : FormData) (rest : List Field) (resolved : NameMap (List OptionItem))
    (calls : List ProviderCall) :
    ∃ options, (options = [] ∨ (e.resolve data text).1.outcome = .ok options) ∧
      e.resolveMany data (f :: rest) resolved calls =
        (e.resolve data text).2.resolveMany data rest (resolved.insert f.name options)
          (calls ++ (e.resolve data text).1.calls) := by
  rw [resolveMany, hf]
  cases houtcome : (e.resolve data text).1.outcome with
  | ok options => exact ⟨options, Or.inr rfl, by simp only [houtcome]⟩
  | error fault => exact ⟨[], Or.inl rfl, by simp only [houtcome]⟩

/-- **The options of many fields**: no list given or kept is too long. -/
theorem resolveMany_bounded (h : e.cache.Bounded e.maxOptions) (data : FormData) (fields : List Field)
    (resolved : NameMap (List OptionItem)) (calls : List ProviderCall) :
    (e.resolveMany data fields resolved calls).2.2.cache.Bounded
        (e.resolveMany data fields resolved calls).2.2.maxOptions ∧
      ((∀ name options, resolved.get? name = some options → options.length ≤ e.maxOptions) →
        ∀ name options, (e.resolveMany data fields resolved calls).1.get? name = some options →
          options.length ≤ e.maxOptions) := by
  -- on the fields; the cache that one leaves is the cache for the next
  induction fields generalizing e resolved calls with
  | nil => exact ⟨h, id⟩
  | cons f rest ih =>
    cases hf : f.dynamicOptions with
    | none =>
      rw [resolveMany, hf]
      exact ih h resolved calls
    | some text =>
      obtain ⟨options, hoptions, hmany⟩ := resolveMany_cons hf e data rest resolved calls
      obtain ⟨hcache, hlength⟩ := OptionsRules.resolve_bounded e.optionsRules h text data
      obtain ⟨hkept, hgiven⟩ := ih (e := (e.resolve data text).2) hcache
        (resolved.insert f.name options) (calls ++ (e.resolve data text).1.calls)
      rw [hmany]
      refine ⟨hkept, fun hresolved => hgiven fun name found hfound => ?_⟩
      -- the options of this field, or those of one before it
      rw [NameMap.get?_insert] at hfound
      split at hfound
      · obtain rfl := Option.some.inj hfound
        rcases hoptions with rfl | houtcome
        · exact Nat.zero_le _
        · exact hlength options houtcome
      · exact hresolved name found hfound

/-- **No cached list is ever too long.** -/
theorem Reached.bounded (h : Reached e) : e.cache.Bounded e.maxOptions := by
  induction h with
  | @start e config spread hempty =>
    rw [hempty]
    exact .empty config spread e.maxOptions
  | resolve _ data text ih => exact (OptionsRules.resolve_bounded _ ih text data).1
  | resolveMany _ data fields resolved calls ih =>
    exact (resolveMany_bounded ih data fields resolved calls).1
  | @clear e _ _ => exact .clear e.cache e.maxOptions
  | meanwhile _ _ _ _ ih => exact ih
  | lookUp _ key ih => exact ih.get key
  | keep _ _ hoptions ih => exact ih.insert (OptionsRules.length_le_of_outcome hoptions) _

/-- **Resolving keeps within the limit, and a failure leaves the cache alone.** In every engine that can be
reached no cached list is longer than the limit, and none is that resolving one text or those of many fields
gives. If resolving a text fails, for whatever reason, the engine is the same as before, or has counted one
more miss and is otherwise the same. If its expression depends on the time, the engine is the same in any
case. -/
theorem resolve_limited (e : Engine) (h : Reached e) (data : FormData) (text : String) :
    (∀ entry, e.cache.Holds entry → entry.options.length ≤ e.maxOptions) ∧
    (∀ options, (e.resolve data text).1.outcome = .ok options → options.length ≤ e.maxOptions) ∧
    (∀ fields name options, (e.resolveMany data fields .empty []).1.get? name = some options →
      options.length ≤ e.maxOptions) ∧
    (∀ fault, (e.resolve data text).1.outcome = .error fault →
      (e.resolve data text).2 = e ∨
        (e.resolve data text).2 = { e with cache.stats.misses := e.cache.stats.misses + 1 }) ∧
    (∀ expression, Expression.ofText e.limits text = .ok expression →
      e.registry.isVolatile expression = true → (e.resolve data text).2 = e) := by
  have hbounded := h.bounded
  refine ⟨hbounded, ?_, ?_, ?_, ?_⟩
  · -- a list that is found was measured when it was kept
    exact (OptionsRules.resolve_bounded e.optionsRules hbounded text data).2
  · intro fields
    refine (resolveMany_bounded hbounded data fields .empty []).2 fun name options hnone => ?_
    exact absurd hnone (by simp [NameMap.get?, NameMap.empty])
  · intro fault hfault
    rcases OptionsRules.resolve_of_error e.optionsRules hfault with hcache | hcache
    · exact Or.inl (congrArg (fun cache => { e with cache }) hcache)
    · exact Or.inr (congrArg (fun cache => { e with cache }) hcache)
  · intro expression hreads hvolatile
    have hreads' : Expression.ofText e.optionsRules.limits text = .ok expression := hreads
    have hresolve := OptionsRules.resolve_of_isVolatile hreads' hvolatile e.cache data
    exact congrArg (fun resolved => { e with cache := resolved.2 }) hresolve

/-! ### A failure behind an entry that has expired -/

/-- The call of a service in `API('/states')`. -/
def callStates : Expression := .call "API" [.literal (.string "/states")]

/-- An engine with a service and nothing else set. -/
def served (answer : Except String Document) : Engine :=
  { initial with providers.api := some fun _ _ => answer }

/-- An engine whose service has broken down, after the states that it gave have expired. -/
def outdated : Engine :=
  let asked := ((served (.ok (.array [.string "Ohio"]))).resolve .empty "API('/states')").2
  { asked.wait 900 with providers := (served (.error "timeout")).providers }

theorem reached_outdated : Reached outdated :=
  .meanwhile (.resolve (.start {} spread rfl) .empty "API('/states')") .origin _ 900

theorem cacheable_states (answer : Except String Document) :
    (served answer).optionsRules.Cacheable "API('/states')" callStates := by
  have hscreen : Screen.check {} "API('/states')".toList = .ok () := by decide +kernel
  have hlexemes : Lexemes.ofChars (Text.trim "API('/states')".toList) =
      ⟨[⟨.name "API", 0⟩, ⟨.symbol .leftParen, 3⟩, ⟨.literal (.string "/states"), 4⟩,
        ⟨.symbol .rightParen, 13⟩], .finished 14⟩ := by decide +kernel
  -- a call with one argument is an operand and so a whole expression
  have hcall := Derives.call (n := 63) "API"
    [([.literal (.string "/states")], .literal (.string "/states"))] (by
      rintro _ (_ | ⟨_, ⟨⟩⟩)
      exact (Derives.literal 63 _).chain_of_primary _)
  have hname : Text.upperString "API" = "API" := by decide
  have hsteady : Registry.builtin.isVolatile callStates = false := by decide +kernel
  rw [hname] at hcall
  exact ⟨Expression.ofText_eq_ok_iff.mpr ⟨hscreen, _, _, hlexemes, hcall.chain_of_primary _⟩, hsteady⟩

/-- The call yields what the service answers. -/
theorem walk_states (answer : Except String Document) :
    (served answer).optionsRules.walk ((served answer).optionsRules.context .empty) callStates =
      do return .optionList (← (served answer).optionsRules.providers.options "API" [.string "/states"]) := by
  have hfind : (served answer).optionsRules.registry.find? "API" = some Builtin.options[1] :=
    (Registry.find?_builtin "API").trans rfl
  -- the function is external, so the walk takes the call apart
  have hasks : (served answer).optionsRules.callsProvider callStates = true := by
    rw [callStates, OptionsRules.callsProvider_call, hfind]
    rfl
  have hresolve : ((served answer).optionsRules.context .empty).resolve "API" 1 =
      .ok Builtin.options[1] := Context.resolve_of_find? hfind (by decide) rfl
  rw [callStates, OptionsRules.walk_call hasks hresolve, OptionsRules.walkAll, OptionsRules.walkAll,
    OptionsRules.walk, Context.evaluate]
  rfl

theorem outcome_states_ohio :
    (served (.ok (.array [.string "Ohio"]))).optionsRules.outcome "API('/states')" .empty =
      .ok [.ofText "Ohio"] := by
  have hdocument : OptionList.ofDocument (.array [.string "Ohio"]) = .ok [.ofText "Ohio"] := by
    rw [OptionList.ofDocument]
    rfl
  have hoptions : (served (.ok (.array [.string "Ohio"]))).optionsRules.providers.options "API"
      [.string "/states"] = ⟨[⟨.api, "/states", []⟩], .ok [.ofText "Ohio"]⟩ := by
    change (⟨[⟨.api, "/states", []⟩],
      (Traced.ofExcept (OptionList.ofDocument (.array [.string "Ohio"]))).outcome⟩ : Traced _) = _
    rw [hdocument]
    rfl
  rw [OptionsRules.outcome_of_ofText (cacheable_states _).reads, OptionsRules.options, walk_states,
    hoptions]
  rfl

theorem outcome_states_timeout :
    outdated.optionsRules.outcome "API('/states')" .empty =
      .error (.providerFailed .api "/states" "timeout") := by
  have hrules : outdated.optionsRules = (served (.error "timeout")).optionsRules := rfl
  rw [hrules, OptionsRules.outcome_of_ofText (cacheable_states _).reads, OptionsRules.options,
    walk_states]
  rfl

/-- The states are still there, but no longer count. -/
theorem cache_outdated :
    (∃ entry, outdated.cache.Holds entry ∧ entry.options = [.ofText "Ohio"]) ∧
      ∀ key, outdated.cache.find? key = none := by
  let key : CacheKey := .ofExpression "API('/states')" callStates .empty
  have hnone : (OptionsCache.empty {} spread).find? key = none :=
    OptionsCache.find?_eq_none fun _ hentry => absurd hentry OptionsCache.not_stores_empty
  obtain ⟨stats, hresolve⟩ :=
    OptionsRules.resolve_miss (cacheable_states _) hnone outcome_states_ohio
  -- the cache as the first call has left it
  let kept : OptionsCache :=
    OptionsCache.insert { OptionsCache.empty {} spread with stats } key [.ofText "Ohio"]
  have hcache : outdated.cache = kept.wait 900 :=
    congrArg (fun resolved => resolved.2.wait 900) hresolve
  rw [hcache]
  constructor
  · -- they were found before the time went by
    have hfind : kept.find? key = some [.ofText "Ohio"] :=
      OptionsCache.find?_insert_of_same (Nat.succ_ne_zero 899) (List.cons_ne_nil _ _)
        (CacheKey.same_refl key) rfl
    obtain ⟨entry, hentry, -, hoptions⟩ := OptionsCache.exists_holds_of_find? hfind
    exact ⟨entry, hentry, hoptions⟩
  · -- the only entry is as old as entries may become
    intro other
    refine OptionsCache.find?_eq_none fun entry hentry => ?_
    rcases OptionsCache.stores_insert hentry with ⟨-, -, hsince⟩ | hbefore
    · have hsince' : entry.since = 0 := hsince
      rw [OptionsCache.counts, hsince']
      exact decide_eq_false (Nat.lt_irrefl 900)
    · have hempty : (OptionsCache.empty {} spread).Stores entry := hbefore
      exact absurd hempty OptionsCache.not_stores_empty

/-- A service fails while the states that it once gave are still cached. -/
theorem resolve_limited_outdated :
    Reached outdated ∧
    (∃ entry, outdated.cache.Holds entry ∧ entry.options = [.ofText "Ohio"]) ∧
    (∀ entry, outdated.cache.Holds entry → entry.options.length ≤ 1000) ∧
    (outdated.resolve .empty "API('/states')").1.outcome =
      .error (.providerFailed .api "/states" "timeout") ∧
    (outdated.resolve .empty "API('/states')").2.cache.shards = outdated.cache.shards := by
  obtain ⟨hkept, hnone⟩ := cache_outdated
  obtain ⟨hbounded, -, -, hfailure, -⟩ :=
    resolve_limited outdated reached_outdated .empty "API('/states')"
  -- nothing is found, so the service is asked and fails
  have houtcome : (outdated.resolve .empty "API('/states')").1.outcome =
      .error (.providerFailed .api "/states" "timeout") := by
    rw [← outcome_states_timeout]
    rcases OptionsRules.resolve_cases outdated.optionsRules outdated.cache "API('/states')" .empty with
      ⟨houtcome, -⟩ | ⟨_, _, _, -, hfind, -⟩ | ⟨_, _, _, -, -, houtcome, -⟩
    · exact houtcome
    · exact absurd hfind (by simp [hnone])
    · exact absurd houtcome (by simp [outcome_states_timeout])
  refine ⟨reached_outdated, hkept, hbounded, houtcome, ?_⟩
  rcases hfailure _ houtcome with hsame | hmissed
  · rw [hsame]
  · rw [hmissed]

end Engine

end Formulary
