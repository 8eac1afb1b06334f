import Formulary.Engine
import Formulary.Proofs.Options.Queue
import Mathlib.Algebra.Group.Action.Defs
import Mathlib.Algebra.Order.BigOperators.Group.List
import Mathlib.Logic.Function.Basic

/-!
# How many entries a cache holds

The capacity of a cache is shared out among its shards: each gets an equal part, rounded up, and at least
one entry. So the shards together have room for `CacheConfig.room` entries, which is the capacity only where
the shares come out even. An entry that has expired takes up room like any other.

`OptionsCache.size_le_capacity_iff` says that no run of requests ever takes a cache past this room, that
the room is never more than a shard count above the capacity, and that the capacity itself is kept exactly
where it is a positive multiple of the number of shards. The bound is attained as soon as every shard gets
enough different keys.

The invariant is `OptionsCache.KeepsQueues`: every shard is a bounded queue of its own, as the shard of
`OptionsCache.Mirrors` is.
-/

namespace Formulary

namespace CacheConfig

/-- The number of entries that all shards have room for together. -/
def room (config : CacheConfig) : Nat := config.shardCount * config.shardCapacity

/-- Each shard is given as many different keys as it has room for. -/
def Supplied (config : CacheConfig) (spread : CacheKey → Nat) : Prop :=
  ∀ place < config.shardCount, ∃ keys : List CacheKey,
    keys.length = config.shardCapacity ∧ (keys.Pairwise fun a b => a.same b = false) ∧
      ∀ key ∈ keys, spread key % config.shardCount = place

/-- The shares make up for the capacity, and the last one may be too large by less than a shard count. -/
theorem share_bounds (config : CacheConfig) :
    let share := (config.capacity + config.shardCount - 1) / config.shardCount
    config.capacity ≤ config.shardCount * share ∧
      config.shardCount * share < config.capacity + config.shardCount := by
  have hpos := config.shardCount_pos
  have hdivide := Nat.div_add_mod (config.capacity + config.shardCount - 1) config.shardCount
  have hrest := Nat.mod_lt (config.capacity + config.shardCount - 1) hpos
  constructor <;> omega

theorem room_lt (config : CacheConfig) :
    config.room < max 1 config.capacity + config.shardCount := by
  obtain ⟨-, hshare⟩ := config.share_bounds
  rw [room, shardCapacity, ← Nat.mul_max_mul_left, Nat.mul_one]
  omega

/-- **The room is the capacity** where the shares come out even, and otherwise more. -/
theorem room_le_capacity_iff (config : CacheConfig) :
    config.room ≤ config.capacity ↔ 0 < config.capacity ∧ config.shardCount ∣ config.capacity := by
  have hpos := config.shardCount_pos
  obtain ⟨hle, hlt⟩ := config.share_bounds
  rw [room, shardCapacity, ← Nat.mul_max_mul_left, Nat.mul_one]
  constructor
  · -- the shares together are no more than the capacity only if they make it up
    intro h
    refine ⟨by omega, _, Nat.le_antisymm hle ?_⟩
    omega
  · rintro ⟨hcapacity, hdvd⟩
    -- the product of the shares is a multiple of the shard count less than one shard above the capacity
    have hdiff := (Nat.dvd_sub_iff_left hle hdvd).mpr (Nat.dvd_mul_right config.shardCount _)
    have hzero := Nat.eq_zero_of_dvd_of_lt hdiff (by omega)
    have hcount := Nat.le_of_dvd hcapacity hdvd
    omega

end CacheConfig

namespace OptionsCache

/-! ### Each shard is a queue -/

/-- Every shard of a cache keeps a queue of its own, for which it has room. -/
structure KeepsQueues (c : OptionsCache) (queues : Nat → List CacheEntry) : Prop where
  /-- There are as many shards as there should be. -/
  length_shards : c.shards.length = c.config.shardCount
  /-- A shard keeps the queue of its place. -/
  represents : ∀ i (s : Shard), c.shards[i]? = some s → s.Represents (queues i)
  /-- No queue is longer than a shard may be. -/
  length_le : ∀ i, (queues i).length ≤ c.config.shardCapacity

namespace KeepsQueues

variable {c : OptionsCache} {queues : Nat → List CacheEntry}

theorem empty (config : CacheConfig) (spread : CacheKey → Nat) :
    (OptionsCache.empty config spread).KeepsQueues fun _ => [] := by
  refine ⟨List.length_replicate, fun i s hs => ?_, fun _ => Nat.zero_le _⟩
  rw [List.eq_of_mem_replicate (List.mem_of_getElem? hs)]
  exact Shard.Represents.empty

theorem clear (h : c.KeepsQueues queues) : c.clear.KeepsQueues fun _ => [] := by
  refine ⟨(List.length_map _).trans h.length_shards, fun i s hs => ?_, fun _ => Nat.zero_le _⟩
  obtain ⟨_, _, rfl⟩ := List.mem_map.mp (List.mem_of_getElem? hs)
  exact Shard.Represents.empty

theorem get (h : c.KeepsQueues queues) (key : CacheKey) : (c.get key).2.KeepsQueues queues := by
  obtain ⟨stats, hget⟩ := c.get_eq key
  rw [hget]
  exact ⟨h.length_shards, h.represents, h.length_le⟩

/-- The shard of a key is there. -/
theorem getElem?_place (h : c.KeepsQueues queues) (key : CacheKey) :
    c.shards[c.place key]? = some (c.shard key) := by
  have hplace : c.place key < c.shards.length :=
    Nat.mod_lt _ (h.length_shards ▸ c.config.shardCount_pos)
  rw [shard, List.getElem?_eq_getElem hplace, Option.getD_some]

/-- **Keeping a list** keeps it in the queue of its shard, and leaves the other queues alone. -/
theorem insert (h : c.KeepsQueues queues) (key : CacheKey) (options : List OptionItem) :
    (c.insert key options).KeepsQueues (Function.update queues (c.place key)
      (OptionsQueue.insert c.config.shardCapacity (queues (c.place key)) key options)) := by
  have hpos := c.config.shardCapacity_pos
  have hroom := h.length_le (c.place key)
  have hshard := h.getElem?_place key
  refine ⟨(List.length_set ..).trans h.length_shards, fun i s hs => ?_, fun i => ?_⟩
  · -- the shard of the key gets the list, and every other shard stays as it is
    rw [shards_insert] at hs
    by_cases hi : i = c.place key
    · subst hi
      rw [List.getElem?_set_self (List.getElem?_eq_some_iff.mp hshard).1] at hs
      rw [← Option.some.inj hs, Function.update_self]
      exact ((h.represents _ _ hshard).insert hpos hroom c.age key options).1
    · rw [List.getElem?_set_ne (Ne.symm hi)] at hs
      rw [Function.update_of_ne hi]
      exact h.represents i s hs
  · -- no queue grows beyond its bound
    by_cases hi : i = c.place key
    · rw [hi, Function.update_self]
      exact OptionsQueue.length_insert_le hpos hroom
    · rw [Function.update_of_ne hi]
      exact h.length_le i

theorem wait (h : c.KeepsQueues queues) (duration : Nat) : (c.wait duration).KeepsQueues queues :=
  ⟨h.length_shards, h.represents, h.length_le⟩

/-- **A run of requests** leaves every shard with a queue for which it has room. -/
theorem exists_after (h : c.KeepsQueues queues) (requests : List CacheRequest) :
    ∃ queues, (c.after requests).KeepsQueues queues := by
  induction requests generalizing c queues with
  | nil => exact ⟨queues, h⟩
  | cons request rest ih =>
    cases request with
    | get key => exact ih (h.get key)
    | insert key options => exact ih (h.insert key options)
    | clear => exact ih h.clear
    | wait duration => exact ih (h.wait duration)

/-- The cache is as large as its queues are together. -/
theorem size_eq_sum (h : c.KeepsQueues queues) :
    c.size = ((List.range c.config.shardCount).map fun i => (queues i).length).sum := by
  rw [size, List.length_flatMap]
  refine congrArg List.sum (List.ext_getElem? fun i => ?_)
  rw [List.getElem?_map, List.getElem?_map]
  -- place by place: a shard has as many entries as its queue, and behind the last there is neither
  by_cases hi : i < c.config.shardCount
  · have hshard := List.getElem?_eq_getElem (h.length_shards ▸ hi : i < c.shards.length)
    rw [hshard, List.getElem?_range hi, Option.map_some, Option.map_some,
      (h.represents i _ hshard).length_eq]
  · rw [List.getElem?_eq_none (h.length_shards ▸ Nat.le_of_not_lt hi),
      List.getElem?_eq_none (by simpa using hi)]
    rfl

/-- **There are no more entries than there is room for.** -/
theorem size_le (h : c.KeepsQueues queues) : c.size ≤ c.config.room := by
  -- no summand is above the share
  have hsum := List.sum_le_card_nsmul ((List.range c.config.shardCount).map fun i => (queues i).length)
    c.config.shardCapacity (by simpa using fun i _ => h.length_le i)
  rwa [← h.size_eq_sum, List.length_map, List.length_range, smul_eq_mul] at hsum

/-- Where all queues are full, so is the cache. -/
theorem size_eq_room (h : c.KeepsQueues queues)
    (hfull : ∀ i < c.config.shardCount, (queues i).length = c.config.shardCapacity) :
    c.size = c.config.room := by
  have hsum := List.sum_eq_card_nsmul ((List.range c.config.shardCount).map fun i => (queues i).length)
    c.config.shardCapacity (by simpa using hfull)
  rwa [← h.size_eq_sum, List.length_map, List.length_range, smul_eq_mul] at hsum

end KeepsQueues

/-! ### Filling a cache -/

/-- The requests that keep a list under each of some keys. -/
def inserting (keys : List CacheKey) : List CacheRequest := keys.map fun key => .insert key []

/-- The entries that these requests make. -/
def blankEntries (keys : List CacheKey) : List CacheEntry := keys.map fun key => ⟨key, []⟩

theorem spread_after (c : OptionsCache) (requests : List CacheRequest) :
    (c.after requests).spread = c.spread := by
  induction requests generalizing c with
  | nil => rfl
  | cons request rest ih =>
    refine (ih _).trans ?_
    cases request with
    | get key =>
      obtain ⟨stats, hget⟩ := c.get_eq key
      rw [serve, hget]
    | insert key options => rfl
    | clear => rfl
    | wait duration => rfl

theorem after_append (c : OptionsCache) (requests more : List CacheRequest) :
    c.after (requests ++ more) = (c.after requests).after more := List.foldl_append

/-- Different keys of one shard, as many as it has room for, all stay there. -/
theorem KeepsQueues.inserting {c : OptionsCache} {queues : Nat → List CacheEntry}
    (h : c.KeepsQueues queues) (place : Nat) (keys : List CacheKey)
    (hplace : ∀ key ∈ keys, c.place key = place)
    (hdistinct : OptionsQueue.Distinct (queues place ++ blankEntries keys))
    (hroom : (queues place).length + keys.length ≤ c.config.shardCapacity) :
    (c.after (inserting keys)).KeepsQueues
      (Function.update queues place (queues place ++ blankEntries keys)) := by
  -- on the keys; the queue grows by the one in front
  induction keys generalizing c queues with
  | nil =>
    rw [blankEntries, List.map_nil, List.append_nil, Function.update_eq_self]
    exact h
  | cons key rest ih =>
    obtain ⟨rfl, hrest⟩ := List.forall_mem_cons.mp hplace
    rw [blankEntries, List.map_cons, ← blankEntries, List.append_cons] at hdistinct ⊢
    -- the key is new to the queue, and the queue is not full yet
    have hnew : OptionsQueue.find? (queues (c.place key)) key = none := by
      refine OptionsQueue.find?_eq_none_iff.mpr fun entry hentry => ?_
      exact (List.pairwise_append.mp (List.pairwise_append.mp hdistinct).1).2.2 entry hentry _
        (List.mem_singleton.mpr rfl)
    have hlength : (queues (c.place key)).length < c.config.shardCapacity := by
      rw [List.length_cons] at hroom
      omega
    have hinsert := h.insert key []
    rw [OptionsQueue.insert, hnew, if_neg (by simp), OptionsQueue.room, if_pos hlength] at hinsert
    have hsame : ∀ other, (c.insert key []).place other = c.place other := fun other => by
      rw [OptionsCache.place, shards_insert, List.length_set]
      rfl
    have hfilled := ih hinsert (fun other hother => (hsame other).trans (hrest other hother))
      (by rwa [Function.update_self]) (by
        rw [Function.update_self, List.length_append, List.length_singleton]
        rw [List.length_cons] at hroom
        change _ ≤ c.config.shardCapacity
        omega)
    rw [Function.update_self, Function.update_idem] at hfilled
    exact hfilled

/-- **A cache can be filled**: with different keys for every shard it comes to hold as many entries as there
is room for. -/
theorem exists_size_eq_room {config : CacheConfig} {spread : CacheKey → Nat}
    (h : config.Supplied spread) :
    ∃ requests, ((empty config spread).after requests).size = config.room := by
  choose! supply hlength hdistinct hplace using h
  -- the keys of the first so many shards, one shard after the other
  let requests (m : Nat) := (List.range m).flatMap fun i => inserting (supply i)
  have hconfig (m : Nat) : ((empty config spread).after (requests m)).config = config :=
    config_after _ _
  -- shard by shard
  have hfill : ∀ m ≤ config.shardCount, ((empty config spread).after (requests m)).KeepsQueues
      fun i => if i < m then blankEntries (supply i) else [] := by
    intro m hm
    induction m with
    | zero => exact KeepsQueues.empty config spread
    | succ m ih =>
      have hbefore := ih (Nat.le_of_succ_le hm)
      have hkeeps := hbefore.inserting m (supply m) (fun key hkey => ?_) ?_ ?_
      · have hrequests : requests (m + 1) = requests m ++ inserting (supply m) := by
          simp only [requests, List.range_succ, List.flatMap_append, List.flatMap_singleton]
        rw [hrequests, after_append]
        convert hkeeps using 1
        funext i
        by_cases hi : i = m
        · subst hi
          simp
        · rw [Function.update_of_ne hi]
          exact if_congr (by omega) rfl rfl
      · rw [OptionsCache.place, hbefore.length_shards, hconfig, spread_after]
        exact hplace m hm key hkey
      · simpa [blankEntries, OptionsQueue.Distinct, List.pairwise_map] using hdistinct m hm
      · rw [if_neg (Nat.lt_irrefl m), hconfig]
        exact Nat.le_of_eq ((Nat.zero_add _).trans (hlength m hm))
  have hsize := (hfill config.shardCount (Nat.le_refl _)).size_eq_room fun i hi => ?_
  · rw [hconfig] at hsize
    exact ⟨_, hsize⟩
  · rw [hconfig] at hi ⊢
    rw [if_pos hi, blankEntries, List.length_map]
    exact hlength i hi

/-- The keys of an engine are spread by the length of their texts, so every shard gets as many as wanted. -/
theorem supplied_spread (config : CacheConfig) : config.Supplied Engine.spread := by
  intro place hplace
  -- texts as long as the place and any multiple of the number of shards
  let key (i : Nat) : CacheKey :=
    ⟨String.ofList (List.replicate (place + config.shardCount * i) 'a'), []⟩
  have hlength (i : Nat) : Engine.spread (key i) = place + config.shardCount * i := by
    simp [Engine.spread, key]
  refine ⟨(List.range config.shardCapacity).map key, by simp, ?_, ?_⟩
  · refine List.pairwise_map.mpr (List.pairwise_lt_range.imp fun {i j} hij => ?_)
    -- different lengths make different keys
    refine Bool.eq_false_iff.mpr fun hsame => ?_
    have hspread := congrArg String.length (CacheKey.expression_eq_of_same hsame)
    change Engine.spread (key i) = Engine.spread (key j) at hspread
    rw [hlength, hlength] at hspread
    exact Nat.ne_of_lt hij (Nat.eq_of_mul_eq_mul_left config.shardCount_pos (Nat.add_left_cancel hspread))
  · intro other hother
    obtain ⟨i, -, rfl⟩ := List.mem_map.mp hother
    rw [hlength, Nat.add_mul_mod_self_left, Nat.mod_eq_of_lt hplace]

/-- **The capacity of a cache.** However keys are spread over the shards and whatever is asked for, a cache
holds no more entries than all its shards have room for, which is less than a shard count above its
capacity. It never holds more than its capacity exactly if the capacity is a positive multiple of the number
of shards, unless the keys do not suffice to fill every shard. -/
theorem size_le_capacity_iff (config : CacheConfig) (spread : CacheKey → Nat) :
    (∀ requests, ((empty config spread).after requests).size ≤ config.room) ∧
    config.room < max 1 config.capacity + config.shardCount ∧
    (0 < config.capacity ∧ config.shardCount ∣ config.capacity →
      ∀ requests, ((empty config spread).after requests).size ≤ config.capacity) ∧
    (config.Supplied spread →
      (∃ requests, ((empty config spread).after requests).size = config.room) ∧
      ((∀ requests, ((empty config spread).after requests).size ≤ config.capacity) →
        0 < config.capacity ∧ config.shardCount ∣ config.capacity)) := by
  have hroom (requests : List CacheRequest) :
      ((empty config spread).after requests).size ≤ config.room := by
    obtain ⟨queues, hqueues⟩ := (KeepsQueues.empty config spread).exists_after requests
    have hsize := hqueues.size_le
    rwa [config_after] at hsize
  refine ⟨hroom, config.room_lt, fun hcapacity requests => ?_, fun hsupplied => ?_⟩
  · exact (hroom requests).trans (config.room_le_capacity_iff.mpr hcapacity)
  · -- a cache that can be filled shows what its room is
    obtain ⟨requests, hfull⟩ := exists_size_eq_room hsupplied
    refine ⟨⟨requests, hfull⟩, fun hcapacity => ?_⟩
    exact config.room_le_capacity_iff.mp (hfull ▸ hcapacity requests)

/-- Two shards with room for two entries each are filled by the keys of an engine. -/
theorem size_le_capacity_iff_odd :
    ∃ requests, ((empty ⟨3, 2, 900⟩ Engine.spread).after requests).size = 4 :=
  ((size_le_capacity_iff ⟨3, 2, 900⟩ Engine.spread).2.2.2 (supplied_spread _)).1

/-- Two shards of two entries each hold four, where three are wanted. -/
theorem size_exceeds_capacity :
    (⟨3, 2, 900⟩ : CacheConfig).capacity < ((empty ⟨3, 2, 900⟩ Engine.spread).after
      (inserting [⟨"1", []⟩, ⟨"22", []⟩, ⟨"333", []⟩, ⟨"4444", []⟩])).size := by
  decide

end OptionsCache

end Formulary
