/-!
# Finite maps from names

A `NameMap α` gives each of finitely many names an `α`. Its entries stand in ascending order of the
names, so a map is determined by what it gives for each name (`NameMap.ext_get?`), and whatever is
written from it comes out in that order.

`NameMap.get?` is the view: `get?_insert`, `get?_erase` and `get?_empty` say what each operation does
to it.
-/

namespace Formulary

/-- Sets the entry of a name among entries in ascending order, in its place in the order; an entry of
the same name gives way. -/
def insertEntry {α : Type} (name : String) (value : α) : List (String × α) → List (String × α)
  | [] => [(name, value)]
  | (other, kept) :: rest =>
    if name < other then (name, value) :: (other, kept) :: rest
    else if name = other then (name, value) :: rest
    else (other, kept) :: insertEntry name value rest

/-- A finite map from names. -/
structure NameMap (α : Type) where
  /-- Each name with what it stands for. -/
  entries : List (String × α)
  /-- The names ascend, so that none occurs twice. -/
  ascending : entries.Pairwise fun a b => a.1 < b.1
deriving DecidableEq

namespace NameMap

variable {α β : Type}

theorem mem_insertEntry {name : String} {value : α} {entries : List (String × α)}
    {entry : String × α} (h : entry ∈ insertEntry name value entries) :
    entry = (name, value) ∨ entry ∈ entries := by
  induction entries with
  | nil => simpa [insertEntry] using h
  | cons first rest ih =>
    obtain ⟨other, kept⟩ := first
    rw [insertEntry] at h
    split at h
    · exact List.mem_cons.mp h
    · split at h <;> rcases List.mem_cons.mp h with h | h
      · exact Or.inl h
      · exact Or.inr (List.mem_cons_of_mem _ h)
      · exact Or.inr (h ▸ List.mem_cons_self)
      · exact (ih h).imp_right (List.mem_cons_of_mem _)

theorem pairwise_insertEntry (name : String) (value : α) {entries : List (String × α)}
    (h : entries.Pairwise fun a b => a.1 < b.1) :
    (insertEntry name value entries).Pairwise fun a b => a.1 < b.1 := by
  induction entries with
  | nil => exact List.pairwise_singleton _ _
  | cons first rest ih =>
    obtain ⟨other, kept⟩ := first
    obtain ⟨above, tail⟩ := List.pairwise_cons.mp h
    rw [insertEntry]
    split
    · next below =>
      refine List.pairwise_cons.mpr ⟨fun entry member => ?_, h⟩
      rcases List.mem_cons.mp member with rfl | member
      · exact below
      · exact String.lt_trans below (above entry member)
    · next notBelow =>
      split
      · next same => exact List.pairwise_cons.mpr ⟨same ▸ above, tail⟩
      · next different =>
        refine List.pairwise_cons.mpr ⟨fun entry member => ?_, ih tail⟩
        rcases mem_insertEntry member with rfl | member
        · exact Decidable.byContradiction fun notAbove =>
            different (String.le_antisymm (String.not_lt.mp notAbove) (String.not_lt.mp notBelow))
        · exact above entry member

/-- The map without entries. -/
def empty : NameMap α := ⟨[], List.Pairwise.nil⟩

instance : Inhabited (NameMap α) := ⟨empty⟩

/-- What a name stands for. -/
def get? (m : NameMap α) (name : String) : Option α := m.entries.lookup name

/-- Whether a name has an entry. -/
def contains (m : NameMap α) (name : String) : Bool := (m.get? name).isSome

/-- The names, in ascending order. -/
def names (m : NameMap α) : List String := m.entries.map (·.1)

/-- The number of entries. -/
def size (m : NameMap α) : Nat := m.entries.length

/-- Lets a name stand for a value, whatever it stood for before. -/
def insert (m : NameMap α) (name : String) (value : α) : NameMap α :=
  ⟨insertEntry name value m.entries, pairwise_insertEntry name value m.ascending⟩

/-- Removes the entry of a name. -/
def erase (m : NameMap α) (name : String) : NameMap α :=
  ⟨m.entries.filter fun entry => entry.1 != name, m.ascending.filter _⟩

/-- Lets a name stand for a value, or for nothing. -/
def assign (m : NameMap α) (name : String) : Option α → NameMap α
  | some value => m.insert name value
  | none => m.erase name

/-- Keeps the entries whose names pass a test. -/
def restrict (m : NameMap α) (keep : String → Bool) : NameMap α :=
  ⟨m.entries.filter fun entry => keep entry.1, m.ascending.filter _⟩

/-- Changes what the names stand for. -/
def map (f : α → β) (m : NameMap α) : NameMap β :=
  ⟨m.entries.map fun entry => (entry.1, f entry.2),
    List.pairwise_map.mpr (m.ascending.imp fun h => h)⟩

/-- The map with these entries; of several with one name the last counts. -/
def ofList (entries : List (String × α)) : NameMap α :=
  entries.foldl (fun m entry => m.insert entry.1 entry.2) empty

/-! ### The view -/

@[simp] theorem get?_empty (name : String) : (empty : NameMap α).get? name = none := rfl

theorem get?_insert (m : NameMap α) (name other : String) (value : α) :
    (m.insert name value).get? other = if other = name then some value else m.get? other := by
  obtain ⟨entries, h⟩ := m
  simp only [get?, insert]
  clear h
  induction entries with
  | nil => grind [insertEntry]
  | cons first rest ih => grind [insertEntry]

theorem get?_erase (m : NameMap α) (name other : String) :
    (m.erase name).get? other = if other = name then none else m.get? other := by
  obtain ⟨entries, h⟩ := m
  simp only [get?, erase]
  clear h
  induction entries with
  | nil => simp
  | cons first rest ih => grind

theorem get?_assign (m : NameMap α) (name other : String) (value? : Option α) :
    (m.assign name value?).get? other = if other = name then value? else m.get? other := by
  cases value? with
  | some value => exact get?_insert m name other value
  | none => exact get?_erase m name other

theorem get?_restrict (m : NameMap α) (keep : String → Bool) (name : String) :
    (m.restrict keep).get? name = if keep name then m.get? name else none := by
  obtain ⟨entries, h⟩ := m
  simp only [get?, restrict]
  clear h
  induction entries with
  | nil => simp
  | cons first rest ih => grind

theorem get?_map (m : NameMap α) (f : α → β) (name : String) :
    (m.map f).get? name = (m.get? name).map f := by
  obtain ⟨entries, h⟩ := m
  simp only [get?, map]
  clear h
  induction entries with
  | nil => rfl
  | cons first rest ih => grind

theorem names_map (m : NameMap α) (f : α → β) : (m.map f).names = m.names := by
  rw [names, names, map, List.map_map]
  rfl

theorem get?_eq_some_iff (m : NameMap α) (name : String) (value : α) :
    m.get? name = some value ↔ (name, value) ∈ m.entries := by
  obtain ⟨entries, h⟩ := m
  simp only [get?]
  induction entries with
  | nil => simp
  | cons first rest ih =>
    obtain ⟨other, kept⟩ := first
    obtain ⟨above, tail⟩ := List.pairwise_cons.mp h
    rw [List.lookup_cons]
    by_cases same : name = other
    · subst same
      have fresh : (name, value) ∉ rest := fun member =>
        String.lt_irrefl name (above (name, value) member)
      simp [fresh, eq_comm]
    · simp [beq_eq_false_iff_ne.mpr same, same, ih tail]

theorem mem_names_iff {m : NameMap α} {name : String} :
    name ∈ m.names ↔ (m.get? name).isSome = true := by
  rw [Option.isSome_iff_exists, names, List.mem_map]
  constructor
  · rintro ⟨⟨_, value⟩, hmem, rfl⟩
    exact ⟨value, (get?_eq_some_iff m _ value).mpr hmem⟩
  · rintro ⟨value, hvalue⟩
    exact ⟨(name, value), (get?_eq_some_iff m name value).mp hvalue, rfl⟩

theorem mem_names_insert {m : NameMap α} {name other : String} {value : α} :
    other ∈ (m.insert name value).names ↔ other = name ∨ other ∈ m.names := by
  rw [mem_names_iff, get?_insert, mem_names_iff]
  by_cases h : other = name <;> simp [h]

theorem mem_names_ofList {entries : List (String × α)} {name : String} :
    name ∈ (ofList entries).names ↔ name ∈ entries.map (·.1) := by
  have hfold : ∀ (entries : List (String × α)) (m : NameMap α),
      name ∈ (entries.foldl (fun m entry => m.insert entry.1 entry.2) m).names ↔
        name ∈ m.names ∨ name ∈ entries.map (·.1) := by
    intro entries
    induction entries with
    | nil => simp
    | cons entry rest ih =>
      intro m
      rw [List.foldl_cons, ih, mem_names_insert, List.map_cons, List.mem_cons]
      grind
  have hempty : name ∉ (empty : NameMap α).names := by simp [names, empty]
  rw [ofList, hfold]
  exact or_iff_right hempty

/-- An entry that comes after all others goes to the end. -/
theorem insertEntry_eq_append {name : String} {value : α} {entries : List (String × α)}
    (h : ∀ entry ∈ entries, entry.1 < name) :
    insertEntry name value entries = entries ++ [(name, value)] := by
  induction entries with
  | nil => rfl
  | cons first rest ih =>
    obtain ⟨other, kept⟩ := first
    obtain ⟨hbelow, hrest⟩ := List.forall_mem_cons.mp h
    have hdifferent : name ≠ other := fun heq => String.lt_irrefl _ (heq ▸ hbelow)
    rw [insertEntry, if_neg (String.lt_asymm hbelow), if_neg hdifferent, ih hrest]
    rfl

/-- Entries in ascending order are set one behind the other. -/
theorem foldl_insertEntry {sorted more : List (String × α)}
    (h : (sorted ++ more).Pairwise fun a b => a.1 < b.1) :
    more.foldl (fun entries entry => insertEntry entry.1 entry.2 entries) sorted = sorted ++ more := by
  induction more generalizing sorted with
  | nil => exact (List.append_nil sorted).symm
  | cons entry more ih =>
    have hlast : ∀ other ∈ sorted, other.1 < entry.1 := fun other hother =>
      (List.pairwise_append.mp h).2.2 other hother entry List.mem_cons_self
    rw [List.append_cons] at h
    rw [List.foldl_cons, insertEntry_eq_append hlast, ih h, ← List.append_cons]

/-- No name occurs twice. -/
theorem nodup_names (m : NameMap α) : m.names.Nodup := by
  refine List.pairwise_map.mpr (m.ascending.imp ?_)
  intro a b hlt heq
  exact String.lt_irrefl _ (heq ▸ hlt)

/-- Maps that give the same for every name are equal. -/
theorem ext_get? {m n : NameMap α} (h : ∀ name, m.get? name = n.get? name) : m = n := by
  have members (entry : String × α) : entry ∈ m.entries ↔ entry ∈ n.entries := by
    rw [← get?_eq_some_iff m, ← get?_eq_some_iff n, h]
  obtain ⟨first, ascendingFirst⟩ := m
  obtain ⟨second, ascendingSecond⟩ := n
  congr
  dsimp only at members
  clear h
  induction first generalizing second with
  | nil =>
    cases second with
    | nil => rfl
    | cons a rest => exact absurd ((members a).mpr List.mem_cons_self) (by simp)
  | cons a rest ih =>
    cases second with
    | nil => exact absurd ((members a).mp List.mem_cons_self) (by simp)
    | cons b others =>
      obtain ⟨aboveA, tailA⟩ := List.pairwise_cons.mp ascendingFirst
      obtain ⟨aboveB, tailB⟩ := List.pairwise_cons.mp ascendingSecond
      have same : a = b := by
        rcases List.mem_cons.mp ((members a).mp List.mem_cons_self) with h | h
        · exact h
        rcases List.mem_cons.mp ((members b).mpr List.mem_cons_self) with k | k
        · exact k.symm
        exact absurd (String.lt_trans (aboveB a h) (aboveA b k)) (String.lt_irrefl _)
      subst same
      have rest_eq := ih tailA others tailB fun entry => by
        have := members entry
        constructor
        · intro h
          rcases List.mem_cons.mp (this.mp (List.mem_cons_of_mem _ h)) with rfl | k
          · exact absurd (aboveA _ h) (String.lt_irrefl _)
          · exact k
        · intro h
          rcases List.mem_cons.mp (this.mpr (List.mem_cons_of_mem _ h)) with rfl | k
          · exact absurd (aboveB _ h) (String.lt_irrefl _)
          · exact k
      rw [rest_eq]

/-- A map is made of its entries. -/
theorem ofList_entries (m : NameMap α) : ofList m.entries = m := by
  have hfold : ∀ (more : List (String × α)) (start : NameMap α),
      (more.foldl (fun m entry => m.insert entry.1 entry.2) start).entries =
        more.foldl (fun entries entry => insertEntry entry.1 entry.2 entries) start.entries := by
    intro more
    induction more with
    | nil => exact fun _ => rfl
    | cons entry more ih => exact fun start => ih (start.insert entry.1 entry.2)
  have hentries : (ofList m.entries).entries = m.entries :=
    (hfold m.entries empty).trans (foldl_insertEntry m.ascending)
  exact ext_get? fun name => by rw [get?, hentries, get?]

end NameMap

end Formulary
