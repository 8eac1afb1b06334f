import Formulary.Expression.Basic

/-!
# A cache of option lists

An `OptionsCache` keeps option lists under keys. A `CacheKey` is the text of an expression with the values
of the names that it mentions, so a change of any other field does not matter; numbers that differ in
their scale only make the same key.

The keys are spread over **shards**. A shard holds so many entries and no more, and remembers the order
in which their keys came: where there is no room for a new one, the keys that came first go. A key that is
there keeps its place when it is given another list.

A cache has a clock of its own, which counts from nought (`OptionsCache.age`), and every entry shows when its
list was kept. Once the lifetime has gone by, the entry no longer counts: it is not found, although it keeps
its place until it has to go, is cleared away or is given another list.
-/

namespace Formulary

/-- What an option list is kept under. -/
structure CacheKey where
  /-- The text of the expression. -/
  expression : String
  /-- The names that it mentions, each with its value if it has one. -/
  inputs : List (String × Option Value)
deriving DecidableEq, Repr

namespace CacheKey

/-- The key of an expression with its text, for some data. -/
def ofExpression (text : String) (e : Expression) (data : FormData) : CacheKey :=
  ⟨text, e.variableNames.map fun name => (name, data.get? name)⟩

/-- Whether two inputs are the same name with the same value. -/
def sameInput : String × Option Value → String × Option Value → Bool
  | (a, some v), (b, some w) => a == b && decide (v.Same w)
  | (a, none), (b, none) => a == b
  | _, _ => false

/-- Whether two lists of inputs are the same. -/
def sameInputs : List (String × Option Value) → List (String × Option Value) → Bool
  | [], [] => true
  | a :: as, b :: bs => sameInput a b && sameInputs as bs
  | _, _ => false

/-- Whether two keys are the same. -/
def same (a b : CacheKey) : Bool := a.expression == b.expression && sameInputs a.inputs b.inputs

end CacheKey

/-- An option list with its key. -/
structure CacheEntry where
  /-- The key. -/
  key : CacheKey
  /-- The option list. -/
  options : List OptionItem
deriving DecidableEq, Repr

/-- An entry as a cache keeps it. -/
structure KeptEntry extends CacheEntry where
  /-- The age of the cache when the list was kept. -/
  since : Nat
deriving DecidableEq, Repr

/-- The size of a cache and the lifetime of its entries. -/
structure CacheConfig where
  /-- How many entries there should be at most. -/
  capacity : Nat := 1024
  /-- Over how many shards they are spread. -/
  shards : Nat := 16
  /-- For how long an entry counts: in seconds, or in whatever else the clock of the cache counts. -/
  lifetime : Nat := 900
deriving DecidableEq, Repr

namespace CacheConfig

/-- The number of shards; there is at least one. -/
def shardCount (config : CacheConfig) : Nat := max 1 config.shards

/-- The number of entries that one shard holds; it holds at least one. -/
def shardCapacity (config : CacheConfig) : Nat :=
  max 1 ((config.capacity + config.shardCount - 1) / config.shardCount)

end CacheConfig

/-! ### One shard -/

/-- A part of the entries, with the order in which their keys came. -/
structure Shard where
  /-- The entries, one for each key; how they stand does not matter. -/
  entries : List KeptEntry := []
  /-- The keys, the one that came first in front. -/
  order : List CacheKey := []
deriving DecidableEq, Repr

namespace Shard

/-- The entry of a key, whether it still counts or not. -/
def find? (s : Shard) (key : CacheKey) : Option KeptEntry :=
  s.entries.find? fun entry => entry.key.same key

/-- Gives another list to a key that is there. -/
def replace (s : Shard) (now : Nat) (key : CacheKey) (options : List OptionItem) : Shard :=
  { s with
    entries := s.entries.map fun entry =>
      if entry.key.same key then { entry with options, since := now } else entry }

/-- Drops the entry of a key, if there is one. -/
def drop (entries : List KeptEntry) (key : CacheKey) : List KeptEntry :=
  entries.filter fun entry => !entry.key.same key

/-- Drops the entries of the keys that came first, until there is room for another entry, and says how many
had to go. -/
def makeRoom (capacity : Nat) (entries : List KeptEntry) : List CacheKey → Shard × Nat
  | [] => (⟨entries, []⟩, 0)
  | oldest :: rest =>
    if capacity ≤ entries.length then
      let (s, evicted) := makeRoom capacity (drop entries oldest) rest
      (s, if entries.any fun entry => entry.key.same oldest then evicted + 1 else evicted)
    else (⟨entries, oldest :: rest⟩, 0)

/-- Keeps a list under a key, and says how many entries had to go. -/
def insert (capacity now : Nat) (s : Shard) (key : CacheKey) (options : List OptionItem) : Shard × Nat :=
  if (s.find? key).isSome then (s.replace now key options, 0)
  else
    let (s, evicted) := makeRoom capacity s.entries s.order
    ({ entries := ⟨⟨key, options⟩, now⟩ :: s.entries, order := s.order ++ [key] }, evicted)

end Shard

/-! ### The cache -/

/-- Figures about a cache. -/
structure CacheStats where
  /-- How often a list was found. -/
  hits : Nat := 0
  /-- How often none was found. -/
  misses : Nat := 0
  /-- How often a list was kept. -/
  inserts : Nat := 0
  /-- How many entries had to go. -/
  evictions : Nat := 0
deriving DecidableEq, Repr

/-- A cache of option lists. -/
structure OptionsCache where
  /-- Its size and the lifetime of entries. -/
  config : CacheConfig
  /-- How keys are spread over the shards; the remainder by their number counts. -/
  spread : CacheKey → Nat
  /-- The shards. -/
  shards : List Shard
  /-- Figures so far. -/
  stats : CacheStats
  /-- How long the cache has been there. -/
  age : Nat

namespace OptionsCache

/-- A new cache, which is empty. -/
def empty (config : CacheConfig) (spread : CacheKey → Nat) : OptionsCache :=
  ⟨config, spread, List.replicate config.shardCount {}, {}, 0⟩

/-- Lets time go by. -/
def wait (c : OptionsCache) (duration : Nat) : OptionsCache := { c with age := c.age + duration }

/-- The place of the shard that a key belongs to. -/
def place (c : OptionsCache) (key : CacheKey) : Nat := c.spread key % c.shards.length

/-- The shard that a key belongs to. -/
def shard (c : OptionsCache) (key : CacheKey) : Shard := c.shards[c.place key]?.getD {}

/-- Whether an entry still counts: its list has been kept for less than the lifetime. -/
def counts (c : OptionsCache) (entry : KeptEntry) : Bool := c.age - entry.since < c.config.lifetime

/-- The list that is kept under a key and still counts. -/
def find? (c : OptionsCache) (key : CacheKey) : Option (List OptionItem) :=
  (((c.shard key).find? key).filter c.counts).map fun entry => entry.options

/-- Looks for the list kept under a key, and counts the attempt. -/
def get (c : OptionsCache) (key : CacheKey) : Option (List OptionItem) × OptionsCache :=
  match c.find? key with
  | some options => (some options, { c with stats.hits := c.stats.hits + 1 })
  | none => (none, { c with stats.misses := c.stats.misses + 1 })

/-- Keeps a list under a key. -/
def insert (c : OptionsCache) (key : CacheKey) (options : List OptionItem) : OptionsCache :=
  let (shard, evicted) := (c.shard key).insert c.config.shardCapacity c.age key options
  { c with
    shards := c.shards.set (c.place key) shard
    stats.inserts := c.stats.inserts + 1
    stats.evictions := c.stats.evictions + evicted }

/-- Drops all entries; the figures and the clock stay. -/
def clear (c : OptionsCache) : OptionsCache := { c with shards := c.shards.map fun _ => {} }

/-- The number of entries, with those that no longer count. -/
def size (c : OptionsCache) : Nat := (c.shards.flatMap Shard.entries).length

end OptionsCache

end Formulary
