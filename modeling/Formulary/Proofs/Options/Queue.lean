import Formulary.Proofs.Options.Kept
import Formulary.Proofs.Options.Keys
import Mathlib.Data.List.Pairwise

/-!
# A cache with one shard is a bounded queue

A shard keeps its entries in one place and the order of their keys in another. Seen from outside it is one
queue of entries (`OptionsQueue`): a key that is there is given another list where it stands, a new key goes
to the end and pushes the first entry out if the queue is full, and clearing leaves nothing.

`OptionsCache.oneShard_refines_queue` says so for every run of requests in which no entry expires
(`OptionsCache.Lasts`), and accounts for the figures of the cache. The queue knows nothing of time, so to wait
makes no difference to it. That nothing expires is needed for what is found only: an expired entry keeps its
place in shard and queue alike.

The invariant is `Shard.Represents`: the entries are those of the queue in any order, the order is that of the
queue, and no key stands in it twice. It is what makes a key of the order find its entry when it has to go, so
that one entry goes and not more.
-/

namespace Formulary

/-- What a cache is asked for. -/
inductive CacheRequest where
  | get (key : CacheKey)
  | insert (key : CacheKey) (options : List OptionItem)
  | clear
  | wait (duration : Nat)

namespace CacheRequest

/-- Whether a list is asked for. -/
def isGet : CacheRequest → Bool
  | get _ => true
  | _ => false

/-- Whether a list is to be kept. -/
def isInsert : CacheRequest → Bool
  | insert _ _ => true
  | _ => false

/-- How much time goes by. -/
def duration : CacheRequest → Nat
  | wait duration => duration
  | _ => 0

end CacheRequest

/-! ### The queue -/

namespace OptionsQueue

/-- The list kept under a key. -/
def find? (queue : List CacheEntry) (key : CacheKey) : Option (List OptionItem) :=
  (queue.find? fun entry => entry.key.same key).map CacheEntry.options

/-- The queue with another list under a key that is there. -/
def replace (queue : List CacheEntry) (key : CacheKey) (options : List OptionItem) :
    List CacheEntry :=
  queue.map fun entry => if entry.key.same key then { entry with options } else entry

/-- The queue without its first entry if it is full. -/
def room (bound : Nat) (queue : List CacheEntry) : List CacheEntry :=
  if queue.length < bound then queue else queue.tail

/-- Keeps a list under a key: where the key stands, or at the end. -/
def insert (bound : Nat) (queue : List CacheEntry) (key : CacheKey) (options : List OptionItem) :
    List CacheEntry :=
  if (find? queue key).isSome then replace queue key options
  else room bound queue ++ [⟨key, options⟩]

/-- What a request leaves of a queue. -/
def serve (bound : Nat) (queue : List CacheEntry) : CacheRequest → List CacheEntry
  | .get _ => queue
  | .insert key options => insert bound queue key options
  | .clear => []
  | .wait _ => queue

/-- What a run of requests leaves of a queue. -/
def after (bound : Nat) (queue : List CacheEntry) (requests : List CacheRequest) : List CacheEntry :=
  requests.foldl (serve bound) queue

/-- What is found in a run of requests, one answer for each time a list is asked for. -/
def answers (bound : Nat) (queue : List CacheEntry) :
    List CacheRequest → List (Option (List OptionItem))
  | [] => []
  | .get key :: rest => find? queue key :: answers bound queue rest
  | .insert key options :: rest => answers bound (insert bound queue key options) rest
  | .clear :: rest => answers bound [] rest
  | .wait _ :: rest => answers bound queue rest

/-- How often a list is kept under a key that is not there, in a run of requests. -/
def newKeys (bound : Nat) (queue : List CacheEntry) : List CacheRequest → Nat
  | [] => 0
  | .get _ :: rest => newKeys bound queue rest
  | .insert key options :: rest =>
    (if (find? queue key).isSome then 0 else 1) + newKeys bound (insert bound queue key options) rest
  | .clear :: rest => newKeys bound [] rest
  | .wait _ :: rest => newKeys bound queue rest

/-- How many entries are cleared away in a run of requests. -/
def cleared (bound : Nat) (queue : List CacheEntry) : List CacheRequest → Nat
  | [] => 0
  | .get _ :: rest => cleared bound queue rest
  | .insert key options :: rest => cleared bound (insert bound queue key options) rest
  | .clear :: rest => queue.length + cleared bound [] rest
  | .wait _ :: rest => cleared bound queue rest

/-- No two entries of a queue have the same key. -/
def Distinct (queue : List CacheEntry) : Prop :=
  queue.Pairwise fun a b => a.key.same b.key = false

variable {bound : Nat} {queue : List CacheEntry} {key : CacheKey} {options : List OptionItem}

theorem find?_eq_none_iff : find? queue key = none ↔ ∀ entry ∈ queue, entry.key.same key = false := by
  simp [find?]

theorem room_sublist : (room bound queue).Sublist queue := by
  rw [room]
  split
  · exact List.Sublist.refl queue
  · exact List.tail_sublist queue

theorem length_room_lt (hbound : 0 < bound) (hlength : queue.length ≤ bound) :
    (room bound queue).length < bound := by
  rw [room]
  split
  · assumption
  · rw [List.length_tail]
    omega

theorem length_insert_le (hbound : 0 < bound) (hlength : queue.length ≤ bound) :
    (insert bound queue key options).length ≤ bound := by
  rw [insert]
  split
  · rw [replace, List.length_map]
    exact hlength
  · rw [List.length_append, List.length_singleton]
    exact length_room_lt hbound hlength

namespace Distinct

/-- A key has at most one entry. -/
theorem eq_of_same (h : Distinct queue) {a b : CacheEntry} (ha : a ∈ queue) (hb : b ∈ queue)
    (hsame : a.key.same key = true) (hsame' : b.key.same key = true) : a = b := by
  by_contra hne
  have hsymm : Std.Symm fun a b : CacheEntry => a.key.same b.key = false := by
    constructor
    intro a b hab
    rwa [CacheKey.same_comm]
  have hdiffer : a.key.same b.key = false := List.Pairwise.forall h ha hb hne
  rw [← CacheKey.same_congr_right (CacheKey.same_symm hsame'), hsame] at hdiffer
  exact Bool.noConfusion hdiffer

/-- Where the entries stand makes no difference to what is found. -/
theorem find?_perm (h : Distinct queue) {entries : List CacheEntry} (hperm : entries.Perm queue) :
    find? entries key = find? queue key := by
  -- an entry is found exactly if it is there and has the key, in whatever order the entries stand
  have hunique (l : List CacheEntry) (hl : l ⊆ queue) (entry : CacheEntry) :
      (l.find? fun entry => entry.key.same key) = some entry ↔
        entry ∈ l ∧ entry.key.same key = true := by
    constructor
    · intro hfind
      exact ⟨List.mem_of_find?_eq_some hfind, by simpa using List.find?_some hfind⟩
    · rintro ⟨hmem, hsame⟩
      cases hfind : l.find? fun entry => entry.key.same key with
      | none => exact absurd hsame (List.find?_eq_none.mp hfind entry hmem)
      | some other =>
        have hother := List.mem_of_find?_eq_some hfind
        have hsame' : other.key.same key = true := by simpa using List.find?_some hfind
        rw [h.eq_of_same (hl hother) (hl hmem) hsame' hsame]
  refine congrArg (Option.map CacheEntry.options) (Option.ext fun entry => ?_)
  rw [hunique entries hperm.subset, hunique queue (List.Subset.refl queue), hperm.mem_iff]

theorem replace (h : Distinct queue) : Distinct (replace queue key options) := by
  refine List.pairwise_map.mpr (h.imp ?_)
  intro a b hab
  -- the keys stay
  split <;> split <;> exact hab

theorem append (h : Distinct queue) (hfind : ∀ entry ∈ queue, entry.key.same key = false) :
    Distinct (queue ++ [⟨key, options⟩]) := by
  refine List.pairwise_append.mpr ⟨h, List.pairwise_singleton _ _, ?_⟩
  intro entry hentry other hother
  rw [List.mem_singleton.mp hother]
  exact hfind entry hentry

end Distinct

end OptionsQueue

/-! ### One shard -/

namespace Shard

/-- A shard keeps the entries of a queue, and their order. -/
structure Represents (s : Shard) (queue : List CacheEntry) : Prop where
  /-- The entries are those of the queue, whenever their lists were kept. -/
  entries_perm : (s.entries.map KeptEntry.toCacheEntry).Perm queue
  /-- The keys are in the order of the queue. -/
  order_eq : s.order = queue.map CacheEntry.key
  /-- No key stands in the queue twice. -/
  distinct : OptionsQueue.Distinct queue

namespace Represents

variable {s : Shard} {queue : List CacheEntry} {capacity : Nat} {key : CacheKey}
  {options : List OptionItem}

theorem empty : Represents {} [] := ⟨.refl [], rfl, .nil⟩

theorem length_eq (h : s.Represents queue) : s.entries.length = queue.length := by
  rw [← h.entries_perm.length_eq, List.length_map]

theorem find? (h : s.Represents queue) (key : CacheKey) :
    ((s.find? key).map fun entry => entry.options) = OptionsQueue.find? queue key := by
  rw [← h.distinct.find?_perm h.entries_perm, OptionsQueue.find?, List.find?_map, Option.map_map]
  rfl

theorem replace (h : s.Represents queue) (now : Nat) (key : CacheKey) (options : List OptionItem) :
    (s.replace now key options).Represents (OptionsQueue.replace queue key options) := by
  refine ⟨?_, ?_, h.distinct.replace⟩
  · -- the queue gets the list wherever the shard does
    have hentries : (s.replace now key options).entries.map KeptEntry.toCacheEntry =
        OptionsQueue.replace (s.entries.map KeptEntry.toCacheEntry) key options := by
      rw [Shard.replace, OptionsQueue.replace, List.map_map, List.map_map]
      refine List.map_congr_left fun entry _ => ?_
      rw [Function.comp_apply, Function.comp_apply]
      split <;> rfl
    rw [hentries]
    exact h.entries_perm.map _
  · rw [OptionsQueue.replace, List.map_map]
    refine h.order_eq.trans (List.map_congr_left fun entry _ => ?_)
    rw [Function.comp_apply]
    split <;> rfl

/-- **Making room drops the first entry of a full queue**, and nothing else. -/
theorem makeRoom (h : s.Represents queue) (hcapacity : 0 < capacity)
    (hlength : queue.length ≤ capacity) :
    (makeRoom capacity s.entries s.order).1.Represents (OptionsQueue.room capacity queue) ∧
      (makeRoom capacity s.entries s.order).2 =
        queue.length - (OptionsQueue.room capacity queue).length := by
  -- a queue that is not full loses nothing, and a full one its first entry
  by_cases hroom : queue.length < capacity
  · rw [makeRoom_of_lt (h.length_eq ▸ hroom), OptionsQueue.room, if_pos hroom, Nat.sub_self]
    exact ⟨h, rfl⟩
  · rw [OptionsQueue.room, if_neg hroom]
    have hlength' := h.length_eq
    obtain ⟨entries, order⟩ := s
    obtain ⟨hperm, horder, hdistinct⟩ := h
    dsimp only at hperm horder hlength' ⊢
    cases queue with
    | nil => exact absurd hcapacity hroom
    | cons first rest =>
      obtain ⟨hfirst, hrest⟩ := List.pairwise_cons.mp hdistinct
      -- the first key finds its own entry, and no other
      have hdrop : ((drop entries first.key).map KeptEntry.toCacheEntry).Perm rest := by
        have hothers : rest.filter (fun entry => !entry.key.same first.key) = rest := by
          refine List.filter_eq_self.mpr fun entry hentry => ?_
          rw [CacheKey.same_comm, hfirst entry hentry]
          rfl
        have hfilter := hperm.filter fun entry => !entry.key.same first.key
        rw [List.filter_map, List.filter_cons_of_neg (by simp), hothers] at hfilter
        exact hfilter
      have hany : (entries.any fun entry => entry.key.same first.key) = true := by
        have hmem := hperm.mem_iff.mpr (List.mem_cons_self : first ∈ first :: rest)
        obtain ⟨entry, hentry, rfl⟩ := List.mem_map.mp hmem
        exact List.any_eq_true.mpr ⟨entry, hentry, CacheKey.same_refl _⟩
      -- so one round of the loop is made, and after it there is room
      have hfull : capacity ≤ entries.length := by
        rw [hlength']
        exact Nat.not_lt.mp hroom
      have hleft : (drop entries first.key).length < capacity := by
        rw [← List.length_map KeptEntry.toCacheEntry, hdrop.length_eq]
        exact hlength
      rw [horder, List.map_cons, Shard.makeRoom, if_pos hfull, makeRoom_of_lt hleft]
      dsimp only
      rw [if_pos hany]
      refine ⟨⟨hdrop, rfl, hrest⟩, ?_⟩
      rw [List.tail_cons, List.length_cons]
      omega

/-- **Keeping a list** in a shard keeps it in the queue. -/
theorem insert (h : s.Represents queue) (hcapacity : 0 < capacity)
    (hlength : queue.length ≤ capacity) (now : Nat) (key : CacheKey) (options : List OptionItem) :
    (s.insert capacity now key options).1.Represents (OptionsQueue.insert capacity queue key options) ∧
      (s.insert capacity now key options).2 +
          (OptionsQueue.insert capacity queue key options).length =
        queue.length + if (OptionsQueue.find? queue key).isSome then 0 else 1 := by
  rw [OptionsQueue.insert, ← h.find? key]
  cases hfind : s.find? key with
  | some kept =>
    rw [Shard.insert, hfind]
    refine ⟨h.replace now key options, ?_⟩
    simp [OptionsQueue.replace]
  | none =>
    obtain ⟨hroom, hevicted⟩ := h.makeRoom hcapacity hlength
    -- a key that is not found has no entry, so the new entry is the only one with it
    have hnew : ∀ entry ∈ queue, entry.key.same key = false := by
      refine OptionsQueue.find?_eq_none_iff.mp ((h.find? key).symm.trans ?_)
      rw [hfind, Option.map_none]
    rw [insert_of_find?_none hfind, hevicted]
    refine ⟨⟨?_, ?_, ?_⟩, ?_⟩
    · -- the shard puts the entry in front, the queue at the end
      exact (hroom.entries_perm.cons _).trans (List.perm_append_singleton _ _).symm
    · simp [hroom.order_eq]
    · exact hroom.distinct.append fun entry hentry => hnew entry (OptionsQueue.room_sublist.subset hentry)
    · have hle : (OptionsQueue.room capacity queue).length ≤ queue.length :=
        OptionsQueue.room_sublist.length_le
      simp only [Option.map_none, Option.isSome_none, Bool.false_eq_true, if_false, List.length_append,
        List.length_singleton]
      omega

end Represents

end Shard

/-! ### The cache -/

namespace OptionsCache

/-- What a request makes of a cache. -/
def serve (c : OptionsCache) : CacheRequest → OptionsCache
  | .get key => (c.get key).2
  | .insert key options => c.insert key options
  | .clear => c.clear
  | .wait duration => c.wait duration

/-- What a run of requests makes of a cache. -/
def after (c : OptionsCache) (requests : List CacheRequest) : OptionsCache := requests.foldl serve c

/-- No entry expires in a run of requests, so that all still count at its end. -/
def Lasts (c : OptionsCache) : List CacheRequest → Prop
  | [] => c.Fresh
  | request :: rest => c.Fresh ∧ (c.serve request).Lasts rest

/-- What a cache answers in a run of requests, each time that a list is asked for. -/
def answers (c : OptionsCache) : List CacheRequest → List (Option (List OptionItem))
  | [] => []
  | .get key :: rest => (c.get key).1 :: answers (c.get key).2 rest
  | .insert key options :: rest => answers (c.insert key options) rest
  | .clear :: rest => answers c.clear rest
  | .wait duration :: rest => answers (c.wait duration) rest

variable {c : OptionsCache} {queue : List CacheEntry}

theorem config_serve (c : OptionsCache) (request : CacheRequest) :
    (c.serve request).config = c.config := by
  cases request with
  | get key =>
    obtain ⟨stats, hget⟩ := c.get_eq key
    rw [serve, hget]
  | insert key options => rfl
  | clear => rfl
  | wait duration => rfl

theorem age_serve (c : OptionsCache) (request : CacheRequest) :
    (c.serve request).age = c.age + request.duration := by
  cases request with
  | get key =>
    obtain ⟨stats, hget⟩ := c.get_eq key
    rw [serve, hget]
    rfl
  | insert key options => rfl
  | clear => rfl
  | wait duration => rfl

theorem config_after (c : OptionsCache) (requests : List CacheRequest) :
    (c.after requests).config = c.config := by
  induction requests generalizing c with
  | nil => rfl
  | cons request rest ih => exact (ih _).trans (config_serve c request)

theorem Lasts.after {requests : List CacheRequest} (h : c.Lasts requests) :
    (c.after requests).Fresh := by
  induction requests generalizing c with
  | nil => exact h
  | cons request rest ih => exact ih h.2

/-- **A run that takes less than the lifetime**, counted from when the cache was new, outlasts no entry. -/
theorem lasts_of_lt {requests : List CacheRequest}
    (h : c.age + (requests.map CacheRequest.duration).sum < c.config.lifetime) : c.Lasts requests := by
  have hfresh : c.Fresh := .of_age_lt (Nat.lt_of_le_of_lt (Nat.le_add_right _ _) h)
  induction requests generalizing c with
  | nil => exact hfresh
  | cons request rest ih =>
    rw [List.map_cons, List.sum_cons, ← Nat.add_assoc, ← age_serve, ← config_serve c request] at h
    exact ⟨hfresh, ih h (.of_age_lt (Nat.lt_of_le_of_lt (Nat.le_add_right _ _) h))⟩

/-! #### Figures

They tell what was asked for, whatever the shards do. -/

theorem hits_after (c : OptionsCache) (requests : List CacheRequest) :
    (c.after requests).stats.hits = c.stats.hits + (c.answers requests).countP Option.isSome := by
  induction requests generalizing c with
  | nil => rfl
  | cons request rest ih =>
    rw [after, List.foldl_cons, ← after, ih]
    cases request with
    | get key =>
      rw [answers, serve, get]
      cases c.find? key with
      | none => rfl
      | some options =>
        rw [List.countP_cons_of_pos rfl]
        exact Nat.add_right_comm _ 1 _
    | insert key options => rfl
    | clear => rfl
    | wait duration => rfl

/-- Each time that a list is asked for is a hit or a miss. -/
theorem hits_add_misses_after (c : OptionsCache) (requests : List CacheRequest) :
    (c.after requests).stats.hits + (c.after requests).stats.misses =
      c.stats.hits + c.stats.misses + requests.countP CacheRequest.isGet := by
  induction requests generalizing c with
  | nil => rfl
  | cons request rest ih =>
    rw [after, List.foldl_cons, ← after, ih]
    cases request with
    | get key =>
      -- one figure or the other goes up by one
      rw [List.countP_cons_of_pos rfl, serve, get]
      cases c.find? key with
      | none =>
        dsimp only
        omega
      | some options =>
        dsimp only
        omega
    | insert key options => rfl
    | clear => rfl
    | wait duration => rfl

theorem inserts_after (c : OptionsCache) (requests : List CacheRequest) :
    (c.after requests).stats.inserts = c.stats.inserts + requests.countP CacheRequest.isInsert := by
  induction requests generalizing c with
  | nil => rfl
  | cons request rest ih =>
    rw [after, List.foldl_cons, ← after, ih]
    cases request with
    | get key =>
      rw [List.countP_cons_of_neg (by simp [CacheRequest.isInsert]), serve, get]
      cases c.find? key with
      | none => rfl
      | some options => rfl
    | insert key options =>
      rw [List.countP_cons_of_pos rfl]
      exact Nat.add_right_comm _ 1 _
    | clear => rfl
    | wait duration => rfl

/-! #### One shard -/

/-- A cache keeps, in its only shard, what a bounded queue keeps. -/
structure Mirrors (c : OptionsCache) (queue : List CacheEntry) : Prop where
  shards_eq : ∃ s, c.shards = [s] ∧ s.Represents queue
  length_le : queue.length ≤ c.config.shardCapacity

namespace Mirrors

theorem shard (h : c.Mirrors queue) (key : CacheKey) :
    c.shards = [c.shard key] ∧ c.place key = 0 ∧ (c.shard key).Represents queue := by
  obtain ⟨s, hshards, hs⟩ := h.shards_eq
  have hplace : c.place key = 0 := by rw [place, hshards, List.length_singleton, Nat.mod_one]
  have hshard : c.shard key = s := by
    rw [OptionsCache.shard, hplace, hshards]
    rfl
  rw [hshard]
  exact ⟨hshards, hplace, hs⟩

theorem size_eq (h : c.Mirrors queue) : c.size = queue.length := by
  obtain ⟨s, hshards, hs⟩ := h.shards_eq
  rw [size, hshards, List.flatMap_singleton, hs.length_eq]

/-- What is found in the queue is found in the cache, as long as nothing has expired. -/
theorem get_fst (h : c.Mirrors queue) (hfresh : c.Fresh) (key : CacheKey) :
    (c.get key).1 = OptionsQueue.find? queue key := by
  obtain ⟨stats, hget⟩ := c.get_eq key
  rw [hget, hfresh.find?_eq]
  exact (h.shard key).2.2.find? key

theorem get (h : c.Mirrors queue) (key : CacheKey) : (c.get key).2.Mirrors queue := by
  obtain ⟨stats, hget⟩ := c.get_eq key
  rw [hget]
  exact ⟨h.shards_eq, h.length_le⟩

/-- **One insertion**: the queue keeps the list too, and the entries that the cache loses are those that it
counts. -/
theorem insert (h : c.Mirrors queue) (key : CacheKey) (options : List OptionItem) :
    (c.insert key options).Mirrors (OptionsQueue.insert c.config.shardCapacity queue key options) ∧
      (c.insert key options).stats.evictions +
          (OptionsQueue.insert c.config.shardCapacity queue key options).length =
        c.stats.evictions + queue.length + if (OptionsQueue.find? queue key).isSome then 0 else 1 := by
  obtain ⟨hshards, hplace, hs⟩ := h.shard key
  have hpos := c.config.shardCapacity_pos
  obtain ⟨hinsert, hevicted⟩ := hs.insert hpos h.length_le c.age key options
  constructor
  · refine ⟨⟨_, ?_, hinsert⟩, OptionsQueue.length_insert_le hpos h.length_le⟩
    rw [shards_insert, hplace, hshards]
    rfl
  · have hstats : (c.insert key options).stats.evictions = c.stats.evictions +
        ((c.shard key).insert c.config.shardCapacity c.age key options).2 := rfl
    omega

theorem clear (h : c.Mirrors queue) : c.clear.Mirrors [] := by
  obtain ⟨s, hshards, -⟩ := h.shards_eq
  refine ⟨⟨{}, ?_, Shard.Represents.empty⟩, Nat.zero_le _⟩
  rw [OptionsCache.clear, hshards]
  rfl

/-- **A request** does to the queue what it does to the cache. -/
theorem serve (h : c.Mirrors queue) (request : CacheRequest) :
    (c.serve request).Mirrors (OptionsQueue.serve c.config.shardCapacity queue request) := by
  cases request with
  | get key => exact h.get key
  | insert key options => exact (h.insert key options).1
  | clear => exact h.clear
  | wait duration => exact ⟨h.shards_eq, h.length_le⟩

/-- **A run of requests** does to the queue what it does to the cache. -/
theorem after (h : c.Mirrors queue) (requests : List CacheRequest) :
    (c.after requests).Mirrors (OptionsQueue.after c.config.shardCapacity queue requests) := by
  induction requests generalizing c queue with
  | nil => exact h
  | cons request rest ih =>
    have hrest := ih (h.serve request)
    rwa [config_serve] at hrest

/-- **A run in which nothing expires** finds in the cache what is in the queue. -/
theorem answers (h : c.Mirrors queue) {requests : List CacheRequest} (hlasts : c.Lasts requests) :
    c.answers requests = OptionsQueue.answers c.config.shardCapacity queue requests := by
  induction requests generalizing c queue with
  | nil => rfl
  | cons request rest ih =>
    have hrest := ih (h.serve request) hlasts.2
    rw [config_serve] at hrest
    cases request with
    | get key => exact congrArg₂ List.cons (h.get_fst hlasts.1 key) hrest
    | insert key options => exact hrest
    | clear => exact hrest
    | wait duration => exact hrest

/-- **What comes in is there, has been evicted, or has been cleared away.** -/
theorem newKeys_eq (h : c.Mirrors queue) (requests : List CacheRequest) :
    queue.length + c.stats.evictions +
        OptionsQueue.newKeys c.config.shardCapacity queue requests =
      (OptionsQueue.after c.config.shardCapacity queue requests).length +
        (c.after requests).stats.evictions +
          OptionsQueue.cleared c.config.shardCapacity queue requests := by
  -- on the requests; each keeps the balance of what came in and what is there or went
  induction requests generalizing c queue with
  | nil => rfl
  | cons request rest ih =>
    have hrest := ih (h.serve request)
    rw [config_serve] at hrest
    rw [OptionsQueue.after, OptionsCache.after, List.foldl_cons, List.foldl_cons, ← OptionsQueue.after,
      ← OptionsCache.after]
    cases request with
    | get key =>
      -- to ask changes neither the queue nor the number of evictions
      have hevictions : (c.serve (.get key)).stats.evictions = c.stats.evictions := by
        rw [OptionsCache.serve, OptionsCache.get]
        cases c.find? key with
        | none => rfl
        | some options => rfl
      rw [hevictions] at hrest
      exact hrest
    | insert key options =>
      -- the step of the balance is `Mirrors.insert`
      have hinsert := (h.insert key options).2
      rw [OptionsCache.serve, OptionsQueue.serve] at hrest ⊢
      rw [OptionsQueue.newKeys, OptionsQueue.cleared]
      omega
    | clear =>
      -- all that was in the queue counts as cleared away
      have hevictions : c.clear.stats.evictions = c.stats.evictions := rfl
      rw [OptionsCache.serve, OptionsQueue.serve] at hrest ⊢
      rw [hevictions, List.length_nil] at hrest
      rw [OptionsQueue.newKeys, OptionsQueue.cleared]
      omega
    | wait duration => exact hrest

end Mirrors

theorem mirrors_empty {config : CacheConfig} (spread : CacheKey → Nat) (hshards : config.shards ≤ 1) :
    (empty config spread).Mirrors [] := by
  refine ⟨⟨{}, ?_, Shard.Represents.empty⟩, Nat.zero_le _⟩
  have hcount : config.shardCount = 1 := Nat.max_eq_left hshards
  rw [empty, hcount]
  rfl

/-- **A cache with one shard is a queue of at most `max 1 capacity` entries** as long as nothing expires. In
every such run of requests it answers as the queue does, and it ends with the entries of the queue, in
whatever order, and with their keys in the order of the queue, none twice. Each time that a list is asked for
is a hit or a miss, each time that one is to be kept is counted, and each new key is there, evicted or cleared
away. -/
theorem oneShard_refines_queue (config : CacheConfig) (spread : CacheKey → Nat)
    (hshards : config.shards ≤ 1) (requests : List CacheRequest)
    (hlasts : (empty config spread).Lasts requests) :
    let bound := max 1 config.capacity
    let queue := OptionsQueue.after bound [] requests
    let found := OptionsQueue.answers bound [] requests
    let c := (empty config spread).after requests
    (empty config spread).answers requests = found ∧
    queue.length ≤ bound ∧
    (∃ s, c.shards = [s] ∧ (s.entries.map KeptEntry.toCacheEntry).Perm queue ∧
      s.order = queue.map CacheEntry.key ∧
      s.order.Perm (s.entries.map fun entry => entry.key) ∧
      s.order.Pairwise fun a b => a.same b = false) ∧
    (∀ key, (c.get key).1 = OptionsQueue.find? queue key) ∧
    c.size = queue.length ∧
    c.stats.hits = found.countP Option.isSome ∧
    c.stats.hits + c.stats.misses = requests.countP CacheRequest.isGet ∧
    c.stats.inserts = requests.countP CacheRequest.isInsert ∧
    OptionsQueue.newKeys bound [] requests =
      c.size + c.stats.evictions + OptionsQueue.cleared bound [] requests := by
  -- one shard gets the whole capacity, and room for one entry at least
  have hcapacity : config.shardCapacity = max 1 config.capacity := by
    rw [CacheConfig.shardCapacity, CacheConfig.shardCount, Nat.max_eq_left hshards,
      Nat.add_sub_cancel, Nat.div_one]
  -- the empty cache mirrors the empty queue, and every request keeps it so
  have hempty := mirrors_empty spread hshards
  have hconfig : (empty config spread).config = config := rfl
  have hafter := hempty.after requests
  have hanswers := hempty.answers hlasts
  have hnew := hempty.newKeys_eq requests
  rw [hconfig, hcapacity] at hafter hanswers hnew
  intro bound queue found c
  -- the figures tell what was asked for, and what was found
  have hhits : c.stats.hits = found.countP Option.isSome := by
    have h := hits_after (empty config spread) requests
    rw [hanswers] at h
    exact h.trans (Nat.zero_add _)
  have hgets : c.stats.hits + c.stats.misses = requests.countP CacheRequest.isGet :=
    (hits_add_misses_after (empty config spread) requests).trans (Nat.zero_add _)
  have hinserts : c.stats.inserts = requests.countP CacheRequest.isInsert :=
    (inserts_after (empty config spread) requests).trans (Nat.zero_add _)
  have hsize : c.size = queue.length := hafter.size_eq
  obtain ⟨s, hshard, hs⟩ := hafter.shards_eq
  have hbound : queue.length ≤ bound := by
    have h := hafter.length_le
    rwa [config_after, hconfig, hcapacity] at h
  refine ⟨hanswers, hbound, ⟨s, hshard, hs.entries_perm, hs.order_eq, ?_, ?_⟩, ?_, hsize, hhits, hgets,
    hinserts, ?_⟩
  · have hkeys := hs.entries_perm.map CacheEntry.key
    rw [List.map_map] at hkeys
    rw [hs.order_eq]
    exact hkeys.symm
  · -- each key stands in the order as often as among the entries, which is once
    rw [hs.order_eq]
    exact List.pairwise_map.mpr hs.distinct
  · exact fun key => hafter.get_fst hlasts.after key
  · rw [hsize]
    exact (Nat.zero_add _).symm.trans hnew

/-- A run in which the first key is given another list, goes for a third one, and comes back; time goes by in
between. -/
def evicting : List CacheRequest :=
  [.insert ⟨"a", []⟩ [.ofText "1"], .wait 500, .insert ⟨"b", []⟩ [.ofText "2"],
    .insert ⟨"a", []⟩ [.ofText "3"], .wait 399, .get ⟨"a", []⟩, .insert ⟨"c", []⟩ [.ofText "4"],
    .get ⟨"a", []⟩, .get ⟨"b", []⟩, .clear, .insert ⟨"a", []⟩ [.ofText "5"]]

theorem oneShard_refines_queue_evicting :
    (1 ≤ 1 ∧ (empty ⟨2, 1, 900⟩ fun _ => 0).Lasts evicting) ∧
    (empty ⟨2, 1, 900⟩ fun _ => 0).answers evicting =
      [some [.ofText "3"], none, some [.ofText "2"]] ∧
    ((empty ⟨2, 1, 900⟩ fun _ => 0).after evicting).size = 1 ∧
    ((empty ⟨2, 1, 900⟩ fun _ => 0).after evicting).stats.evictions = 1 := by
  have hlasts : (empty ⟨2, 1, 900⟩ fun _ => 0).Lasts evicting := lasts_of_lt (by decide)
  obtain ⟨hanswers, -, -, -, hsize, -, -, -, hnew⟩ :=
    oneShard_refines_queue ⟨2, 1, 900⟩ (fun _ => 0) (by decide) evicting hlasts
  have hlength : (OptionsQueue.after 2 [] evicting).length = 1 := by decide
  have hnewKeys : OptionsQueue.newKeys 2 [] evicting = 4 := by decide
  have hcleared : OptionsQueue.cleared 2 [] evicting = 2 := by decide
  -- the bound is two entries
  change OptionsQueue.newKeys 2 [] evicting = _ + _ + OptionsQueue.cleared 2 [] evicting at hnew
  refine ⟨⟨by decide, hlasts⟩, hanswers.trans (by decide), hsize.trans hlength, ?_⟩
  rw [hsize.trans hlength, hnewKeys, hcleared] at hnew
  omega

end OptionsCache

end Formulary
