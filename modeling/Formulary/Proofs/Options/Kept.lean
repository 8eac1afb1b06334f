import Formulary.Proofs.Options.Keys

/-!
# What a cache keeps

Which entries a cache stores (`OptionsCache.Stores`), which lists it holds under which keys however long ago
they were kept (`OptionsCache.Holds`), and what its operations do to them:

* a list that is found belongs to an entry with the same key (`exists_holds_of_find?`);
* keeping a list makes it the list of one entry, a new one or the one that had the key already, and brings no
  other entry (`stores_insert`), whatever is evicted;
* a list just kept is found under every key that is the same (`find?_insert_of_same`).

A cache is **fresh** as long as none of its entries has expired (`OptionsCache.Fresh`). Only time can put an
end to that: an entry that is kept counts at once (`Fresh.insert`), unless the lifetime is 0.
-/

namespace Formulary

namespace CacheConfig

theorem shardCount_pos (config : CacheConfig) : 0 < config.shardCount :=
  Nat.lt_of_lt_of_le Nat.one_pos (Nat.le_max_left _ _)

theorem shardCapacity_pos (config : CacheConfig) : 0 < config.shardCapacity :=
  Nat.lt_of_lt_of_le Nat.one_pos (Nat.le_max_left _ _)

end CacheConfig

namespace Shard

variable {s : Shard} {key : CacheKey} {options : List OptionItem} {entry : KeptEntry} {capacity now : Nat}

theorem mem_of_find? (h : s.find? key = some entry) :
    entry ∈ s.entries ∧ entry.key.same key = true :=
  ⟨List.mem_of_find?_eq_some h, by simpa using List.find?_some h⟩

/-- Where there is room already, nothing goes. -/
theorem makeRoom_of_lt {entries : List KeptEntry} (h : entries.length < capacity)
    (order : List CacheKey) : makeRoom capacity entries order = (⟨entries, order⟩, 0) := by
  cases order with
  | nil => rfl
  | cons oldest rest => rw [makeRoom, if_neg (Nat.not_le.mpr h)]

/-- Making room adds no entry. -/
theorem mem_of_mem_makeRoom {entries : List KeptEntry} {order : List CacheKey}
    (h : entry ∈ (makeRoom capacity entries order).1.entries) : entry ∈ entries := by
  induction order generalizing entries with
  | nil => exact h
  | cons oldest rest ih =>
    rw [makeRoom] at h
    split at h
    · exact (List.mem_filter.mp (ih h)).1
    · exact h

theorem insert_of_find?_none (h : s.find? key = none) :
    s.insert capacity now key options =
      ({ entries := ⟨⟨key, options⟩, now⟩ :: (makeRoom capacity s.entries s.order).1.entries
         order := (makeRoom capacity s.entries s.order).1.order ++ [key] },
        (makeRoom capacity s.entries s.order).2) := by
  rw [insert, h]
  rfl

/-- **After a list has been kept**, every entry has that list and that key, as of now, or was there before. -/
theorem mem_insert (h : entry ∈ (s.insert capacity now key options).1.entries) :
    (entry.key.same key = true ∧ entry.options = options ∧ entry.since = now) ∨
      entry ∈ s.entries := by
  cases hfind : s.find? key with
  | none =>
    rw [insert_of_find?_none hfind] at h
    rcases List.mem_cons.mp h with rfl | h
    · exact Or.inl ⟨CacheKey.same_refl key, rfl, rfl⟩
    · exact Or.inr (mem_of_mem_makeRoom h)
  | some kept =>
    -- the key was there: its entry has been given another list
    rw [insert, hfind] at h
    obtain ⟨before, hbefore, rfl⟩ := List.mem_map.mp h
    split
    · next hsame => exact Or.inl ⟨hsame, rfl, rfl⟩
    · exact Or.inr hbefore

/-- A list that has been kept is there under every key that is the same. -/
theorem exists_find?_insert {other : CacheKey} (hsame : key.same other = true) :
    ∃ entry, (s.insert capacity now key options).1.find? other = some entry ∧
      entry.options = options ∧ entry.since = now := by
  cases hfind : s.find? key with
  | none =>
    -- the entry that came last stands in front
    rw [insert_of_find?_none hfind]
    exact ⟨⟨⟨key, options⟩, now⟩, List.find?_cons_of_pos hsame, rfl, rfl⟩
  | some kept =>
    obtain ⟨-, hkept⟩ := mem_of_find? hfind
    rw [insert, hfind]
    refine ⟨{ kept with options, since := now }, ?_, rfl, rfl⟩
    change (s.entries.map _).find? _ = _
    -- another list changes no key, and both keys have the same entry
    have hkeys : ((fun entry : KeptEntry => entry.key.same other) ∘ fun entry : KeptEntry =>
        if entry.key.same key then { entry with options, since := now } else entry) =
        fun entry => entry.key.same key := by
      funext entry
      rw [Function.comp_apply, ← CacheKey.same_congr_right hsame]
      split <;> rfl
    have hfind' : s.entries.find? (fun entry => entry.key.same key) = some kept := hfind
    rw [List.find?_map, hkeys, hfind', Option.map_some, if_pos hkept]

end Shard

namespace OptionsCache

variable {c : OptionsCache} {key : CacheKey} {options : List OptionItem} {entry : KeptEntry}
  {config : CacheConfig} {spread : CacheKey → Nat}

/-- An entry stands in one of the shards. -/
def Stores (c : OptionsCache) (entry : KeptEntry) : Prop := ∃ s ∈ c.shards, entry ∈ s.entries

/-- A list is kept under a key, whether it still counts or not. -/
def Holds (c : OptionsCache) (entry : CacheEntry) : Prop :=
  ∃ since, c.Stores { entry with since }

/-- No entry has expired. -/
def Fresh (c : OptionsCache) : Prop := ∀ entry, c.Stores entry → c.counts entry = true

theorem Stores.holds (h : c.Stores entry) : c.Holds entry.toCacheEntry := ⟨entry.since, h⟩

theorem not_stores_empty : ¬(empty config spread).Stores entry := by
  rintro ⟨s, hs, hentry⟩
  rw [empty, List.mem_replicate] at hs
  rw [hs.2] at hentry
  exact List.not_mem_nil hentry

theorem not_stores_clear : ¬c.clear.Stores entry := by
  rintro ⟨s, hs, hentry⟩
  obtain ⟨_, _, rfl⟩ := List.mem_map.mp hs
  exact List.not_mem_nil hentry

theorem stores_of_mem_shard (h : entry ∈ (c.shard key).entries) : c.Stores entry := by
  rw [shard] at h
  cases hplace : c.shards[c.place key]? with
  | none =>
    rw [hplace] at h
    exact absurd h List.not_mem_nil
  | some s =>
    rw [hplace] at h
    exact ⟨s, List.mem_of_getElem? hplace, h⟩

theorem exists_stores_of_find? (h : c.find? key = some options) :
    ∃ entry, c.Stores entry ∧ c.counts entry = true ∧ entry.key.same key = true ∧
      entry.options = options := by
  obtain ⟨entry, hfind, hoptions⟩ := Option.map_eq_some_iff.mp h
  obtain ⟨hfind, hcounts⟩ := Option.filter_eq_some_iff.mp hfind
  obtain ⟨hmem, hsame⟩ := Shard.mem_of_find? hfind
  exact ⟨entry, stores_of_mem_shard hmem, hcounts, hsame, hoptions⟩

theorem exists_holds_of_find? (h : c.find? key = some options) :
    ∃ entry, c.Holds entry ∧ entry.key.same key = true ∧ entry.options = options := by
  obtain ⟨entry, hentry, -, hsame, hoptions⟩ := exists_stores_of_find? h
  exact ⟨entry.toCacheEntry, hentry.holds, hsame, hoptions⟩

/-- Where no entry counts any more, nothing is found. -/
theorem find?_eq_none (h : ∀ entry, c.Stores entry → c.counts entry = false) : c.find? key = none := by
  cases hfind : c.find? key with
  | none => rfl
  | some options =>
    obtain ⟨entry, hentry, hcounts, -⟩ := exists_stores_of_find? hfind
    rw [h entry hentry] at hcounts
    exact absurd hcounts Bool.false_ne_true

/-- Looking a key up answers by `find?`, and only the figures change. -/
theorem get_eq (c : OptionsCache) (key : CacheKey) :
    ∃ stats, c.get key = (c.find? key, { c with stats }) := by
  rw [get]
  cases c.find? key with
  | none => exact ⟨_, rfl⟩
  | some options => exact ⟨_, rfl⟩

theorem shards_insert (c : OptionsCache) (key : CacheKey) (options : List OptionItem) :
    (c.insert key options).shards =
      c.shards.set (c.place key)
        ((c.shard key).insert c.config.shardCapacity c.age key options).1 := rfl

/-- **Keeping a list brings no other entry**: what is stored afterwards has that list under that key, or was
there before. -/
theorem stores_insert (h : (c.insert key options).Stores entry) :
    (entry.key.same key = true ∧ entry.options = options ∧ entry.since = c.age) ∨
      c.Stores entry := by
  obtain ⟨s, hs, hentry⟩ := h
  rw [shards_insert] at hs
  rcases List.mem_or_eq_of_mem_set hs with hs | rfl
  · exact Or.inr ⟨s, hs, hentry⟩
  · exact (Shard.mem_insert hentry).imp_right stores_of_mem_shard

/-- An entry counts when its list has just been kept. -/
theorem counts_insert (hlifetime : c.config.lifetime ≠ 0) (hsince : entry.since = c.age) :
    (c.insert key options).counts entry = true := by
  have hage : (c.insert key options).age = c.age := rfl
  have hconfig : (c.insert key options).config = c.config := rfl
  rw [counts, hage, hconfig, hsince, Nat.sub_self]
  exact decide_eq_true (Nat.pos_of_ne_zero hlifetime)

/-! ### Fresh caches -/

namespace Fresh

theorem empty : (OptionsCache.empty config spread).Fresh := fun _ h => absurd h not_stores_empty

/-- In a fresh cache an entry is found whenever it is there. -/
theorem find?_eq (h : c.Fresh) (key : CacheKey) :
    c.find? key = ((c.shard key).find? key).map fun entry => entry.options := by
  rw [OptionsCache.find?]
  cases hfind : (c.shard key).find? key with
  | none => rfl
  | some entry =>
    have hcounts := h entry (stores_of_mem_shard (Shard.mem_of_find? hfind).1)
    rw [Option.filter_some, if_pos hcounts]

theorem insert (h : c.Fresh) (hlifetime : c.config.lifetime ≠ 0) (key : CacheKey)
    (options : List OptionItem) : (c.insert key options).Fresh := by
  intro entry hentry
  rcases stores_insert hentry with ⟨-, -, hsince⟩ | hbefore
  · exact counts_insert hlifetime hsince
  · exact h entry hbefore

/-- Until it is as old as its entries may become, a cache is fresh. -/
theorem of_age_lt (h : c.age < c.config.lifetime) : c.Fresh := fun entry _ =>
  decide_eq_true (Nat.lt_of_le_of_lt (Nat.sub_le c.age entry.since) h)

end Fresh

/-- **A list just kept is found** under each key that is the same. -/
theorem find?_insert_of_same (hlifetime : c.config.lifetime ≠ 0) (hshards : c.shards ≠ [])
    {other : CacheKey} (hsame : key.same other = true) (hspread : c.spread key = c.spread other) :
    (c.insert key options).find? other = some options := by
  have hplace : c.place key < c.shards.length := Nat.mod_lt _ (List.length_pos_iff.mpr hshards)
  have hplace' : (c.insert key options).place other = c.place key := by
    rw [place, shards_insert, List.length_set, place, hspread]
    rfl
  have hshard : (c.insert key options).shard other =
      ((c.shard key).insert c.config.shardCapacity c.age key options).1 := by
    rw [shard, hplace', shards_insert, List.getElem?_set_self hplace]
    rfl
  obtain ⟨entry, hfind, hoptions, hsince⟩ : ∃ entry,
      ((c.shard key).insert c.config.shardCapacity c.age key options).1.find? other = some entry ∧
        entry.options = options ∧ entry.since = c.age := Shard.exists_find?_insert hsame
  rw [find?, hshard, hfind, Option.filter_some, if_pos (counts_insert hlifetime hsince),
    Option.map_some, hoptions]

end OptionsCache

end Formulary
