import Formulary.Text.Case
import Formulary.Text.Letter

/-!
# Classes of characters

How white space, word characters and upper case go together. White space is no part of a word
(`isWordChar_of_isBlank`), and upper case leaves words where they are: a character of a word becomes
characters of a word, and any other character stays as it is (`upperChar_cases`).

Beyond ASCII these are facts about the tables, which are gone through entry by entry.
-/

namespace Formulary.Text

/-! ### Searching tables

The tables are long, so their ranges are arranged in a tree for searching. The kernel compares code points by
`Nat.ble` at once. -/

/-- Ranges of code points, arranged for searching by halves. -/
inductive RangeTree where
  /-- No range. -/
  | leaf
  /-- A range between the ranges below and those above it. -/
  | node (below : RangeTree) (range : Nat × Nat) (above : RangeTree)

namespace RangeTree

/-- The ranges of a tree. -/
def ranges : RangeTree → List (Nat × Nat)
  | leaf => []
  | node below range above => below.ranges ++ range :: above.ranges

/-- A tree of that height at most, made of the first ranges of a list, and the ranges that are left. -/
def take : Nat → List (Nat × Nat) → RangeTree × List (Nat × Nat)
  | 0, table => (leaf, table)
  | height + 1, table =>
    match take height table with
    | (below, []) => (below, [])
    | (below, range :: rest) =>
      let (above, left) := take height rest
      (node below range above, left)

/-- Whether a range of the tree covers an interval of code points, as far as searching finds it. -/
def covers (first last : Nat) : RangeTree → Bool
  | leaf => false
  | node below range above =>
    bif Nat.ble range.1 first then Nat.ble last range.2 || above.covers first last
    else below.covers first last

/-- No range is lost. -/
theorem ranges_take (height : Nat) (table : List (Nat × Nat)) :
    (take height table).1.ranges ++ (take height table).2 = table := by
  induction height generalizing table with
  | zero => rfl
  | succ height ih =>
    have hbelow := ih table
    rw [take]
    split
    · next below htake =>
      rw [htake] at hbelow
      exact hbelow
    · next below range rest htake =>
      rw [htake] at hbelow
      have habove := ih rest
      rw [ranges, List.append_assoc, List.cons_append, habove]
      exact hbelow

theorem exists_of_covers {t : RangeTree} {first last : Nat} (h : t.covers first last = true) :
    ∃ range ∈ t.ranges, range.1 ≤ first ∧ last ≤ range.2 := by
  induction t with
  | leaf => contradiction
  | node below range above ihbelow ihabove =>
    rw [covers] at h
    cases hfirst : Nat.ble range.1 first with
    | false =>
      rw [hfirst, cond_false] at h
      obtain ⟨found, hmem, hfound⟩ := ihbelow h
      exact ⟨found, List.mem_append_left _ hmem, hfound⟩
    | true =>
      rw [hfirst, cond_true, Bool.or_eq_true] at h
      rcases h with hlast | h
      · exact ⟨range, List.mem_append_right _ List.mem_cons_self, Nat.le_of_ble_eq_true hfirst,
          Nat.le_of_ble_eq_true hlast⟩
      · obtain ⟨found, hmem, hfound⟩ := ihabove h
        exact ⟨found, List.mem_append_right _ (List.mem_cons_of_mem _ hmem), hfound⟩

end RangeTree

/-- Whether a range of a table covers an interval of code points. A tree of height ten holds more ranges than
any of the tables. -/
def covers (table : List (Nat × Nat)) (first last : Nat) : Bool :=
  (RangeTree.take 10 table).1.covers first last

theorem exists_of_covers {table : List (Nat × Nat)} {first last : Nat}
    (h : covers table first last = true) : ∃ range ∈ table, range.1 ≤ first ∧ last ≤ range.2 := by
  obtain ⟨range, hmem, hrange⟩ := RangeTree.exists_of_covers h
  refine ⟨range, ?_, hrange⟩
  rw [← RangeTree.ranges_take 10 table]
  exact List.mem_append_left _ hmem

theorem inRanges_of_covers {ranges : List (Nat × Nat)} {first last n : Nat}
    (h : covers ranges first last = true) (hfirst : first ≤ n) (hlast : n ≤ last) :
    inRanges ranges n = true := by
  obtain ⟨range, hmem, hrange⟩ := exists_of_covers h
  refine List.any_eq_true.mpr ⟨range, hmem, ?_⟩
  rw [Bool.and_eq_true, decide_eq_true_eq, decide_eq_true_eq]
  exact ⟨Nat.le_trans hrange.1 hfirst, Nat.le_trans hlast hrange.2⟩

/-- Whether the ranges of a table leave an interval of code points out. -/
def apart (ranges : List (Nat × Nat)) (first last : Nat) : Bool :=
  ranges.all fun range => Nat.blt last range.1 || Nat.blt range.2 first

theorem inRanges_of_apart {ranges : List (Nat × Nat)} {first last n : Nat}
    (h : apart ranges first last = true) (hfirst : first ≤ n) (hlast : n ≤ last) :
    inRanges ranges n = false := by
  rw [inRanges, List.any_eq_false]
  intro range hmem
  have hrange := List.all_eq_true.mp h range hmem
  rw [Bool.or_eq_true, Nat.blt_eq, Nat.blt_eq] at hrange
  rw [Bool.and_eq_true, decide_eq_true_eq, decide_eq_true_eq]
  omega

/-- What a table of runs gives for a code point stands in one of its runs. -/
theorem exists_of_shift? {runs : List (Nat × Nat × Nat × Int)} {n m : Nat}
    (h : shift? runs n = some m) :
    ∃ run ∈ runs, n ∈ List.range' run.1 (run.2.1 + 1 - run.1) ∧
      (n - run.1) % run.2.2.1 = 0 ∧ m = (n + run.2.2.2 : Int).toNat := by
  rw [shift?] at h
  split at h
  · next first last step shift hfind =>
    have hmem := List.mem_of_find?_eq_some hfind
    have hrun := List.find?_some hfind
    simp only [Bool.and_eq_true, decide_eq_true_eq, beq_iff_eq] at hrun
    obtain ⟨⟨hfirst, hlast⟩, hstep⟩ := hrun
    refine ⟨_, hmem, List.mem_range'_1.mpr ⟨hfirst, ?_⟩, hstep, (Option.some.inj h).symm⟩
    change n < first + (last + 1 - first)
    omega
  · exact absurd h (by simp)

/-- What holds of every entry of a list is found by going through that list. -/
theorem forall_mem_of_all {σ : Type} {P : σ → Prop} [DecidablePred P] {l : List σ}
    (h : (l.all fun a => decide (P a)) = true) : ∀ a ∈ l, P a :=
  fun a ha => of_decide_eq_true (List.all_eq_true.mp h a ha)

/-! ### ASCII -/

/-- What holds of every ASCII code point holds of every ASCII character. -/
theorem ascii_forall {P : Char → Prop} (h : ∀ n ∈ List.range 128, P (Char.ofNat n)) {c : Char}
    (hc : c.toNat < 128) : P c := by
  rw [← Char.ofNat_toNat c]
  exact h _ (List.mem_range.mpr hc)

theorem toNat_lt_of_isAlphanum {c : Char} (h : c.isAlphanum = true) : c.toNat < 128 := by
  have hbelow {last : UInt32} (hc : c.val ≤ last) (hlast : last.toNat < 128) : c.toNat < 128 :=
    Nat.lt_of_le_of_lt (UInt32.le_iff_toNat_le.mp hc) hlast
  rcases Bool.or_eq_true_iff.mp h with halpha | hdigit
  · rcases Bool.or_eq_true_iff.mp halpha with hupper | hlower
    · exact hbelow (of_decide_eq_true hupper).2 (by decide)
    · exact hbelow (of_decide_eq_true (Bool.and_eq_true_iff.mp hlower).2) (by decide)
  · exact hbelow (of_decide_eq_true (Bool.and_eq_true_iff.mp hdigit).2) (by decide)

theorem toNat_lt_of_isDigit {c : Char} (h : c.isDigit = true) : c.toNat < 128 :=
  toNat_lt_of_isAlphanum (by rw [Char.isAlphanum, h, Bool.or_true])

theorem isWordChar_of_isAlphanum {c : Char} (h : c.isAlphanum = true) : isWordChar c = true := by
  rw [isWordChar, if_pos (toNat_lt_of_isAlphanum h), h]
  rfl

/-! ### White space -/

/-- The ranges of white space lie apart from those of letters, numbers and marks. -/
theorem inRanges_of_isBlank {c : Char} (h : isBlank c = true) :
    inRanges alphabeticRanges c.toNat = false ∧ inRanges numericRanges c.toNat = false ∧
      inRanges wordMarkRanges c.toNat = false := by
  have htable : ∀ range ∈ blankRanges, apart alphabeticRanges range.1 range.2 = true ∧
      apart numericRanges range.1 range.2 = true ∧ apart wordMarkRanges range.1 range.2 = true := by
    decide +kernel
  obtain ⟨range, hmem, hrange⟩ := List.any_eq_true.mp h
  rw [Bool.and_eq_true, decide_eq_true_eq, decide_eq_true_eq] at hrange
  obtain ⟨halphabetic, hnumeric, hmark⟩ := htable range hmem
  exact ⟨inRanges_of_apart halphabetic hrange.1 hrange.2,
    inRanges_of_apart hnumeric hrange.1 hrange.2, inRanges_of_apart hmark hrange.1 hrange.2⟩

theorem isWordChar_of_isBlank {c : Char} (h : isBlank c = true) : isWordChar c = false := by
  obtain ⟨halphabetic, -, hmark⟩ := inRanges_of_isBlank h
  by_cases hc : c.toNat < 128
  · exact ascii_forall (P := fun c => isBlank c = true → isWordChar c = false) (forall_mem_of_all rfl) hc h
  · rw [isWordChar, if_neg hc, halphabetic, hmark]
    rfl

theorem isAlphanumeric_of_isBlank {c : Char} (h : isBlank c = true) : isAlphanumeric c = false := by
  obtain ⟨halphabetic, hnumeric, -⟩ := inRanges_of_isBlank h
  by_cases hc : c.toNat < 128
  · exact ascii_forall (P := fun c => isBlank c = true → isAlphanumeric c = false)
      (forall_mem_of_all rfl) hc h
  · rw [isAlphanumeric, isAlphabetic, isNumeric, if_neg hc, if_neg hc, halphabetic, hnumeric]
    rfl

/-! ### Upper case -/

/-- Where the upper case of a character comes from: from ASCII, from the table of expansions, from a run
of the other table, or it is the character itself. -/
theorem upperChar_sources {P : Char → List Char → Prop}
    (hascii : ∀ n ∈ List.range 128, P (Char.ofNat n) [(Char.ofNat n).toUpper])
    (hexpansion : ∀ entry ∈ upperExpansions, P (Char.ofNat entry.1) (entry.2.map Char.ofNat))
    (hrun : ∀ run ∈ upperRuns, ∀ n ∈ List.range' run.1 (run.2.1 + 1 - run.1),
      (n - run.1) % run.2.2.1 = 0 → P (Char.ofNat n) [Char.ofNat (n + run.2.2.2 : Int).toNat])
    (hself : ∀ c, P c [c]) (c : Char) : P c (upperChar c) := by
  rw [upperChar]
  split
  · next hc => exact ascii_forall (P := fun c => P c [c.toUpper]) hascii hc
  · split
    · next codes hlookup =>
      -- what is looked up is an entry of the table
      obtain ⟨before, after, hentries, _⟩ := List.lookup_eq_some_iff.mp hlookup
      have hmem : (c.toNat, codes) ∈ upperExpansions := by
        rw [hentries]
        exact List.mem_append_right _ List.mem_cons_self
      have hentry := hexpansion _ hmem
      rwa [Char.ofNat_toNat] at hentry
    · cases hshift : shift? upperRuns c.toNat with
      | none => exact hself c
      | some m =>
        -- what is shifted lies on a run, a whole number of steps from its start
        obtain ⟨run, hmem, hn, hstep, rfl⟩ := exists_of_shift? hshift
        have h := hrun run hmem _ hn hstep
        rwa [Char.ofNat_toNat] at h

theorem toNat_ofNat {n : Nat} (h : n.isValidChar) : (Char.ofNat n).toNat = n := by
  rw [Char.ofNat, dif_pos h]
  rfl

/-- Whether code points beyond ASCII, or a letter, are all characters of words by one range of a table. -/
def areWordCodes (first last : Nat) : Bool :=
  (Nat.ble 128 first && (Nat.blt last 0xD800 || (Nat.blt 0xDFFF first && Nat.blt last 0x110000)) &&
    (covers alphabeticRanges first last || covers wordMarkRanges first last)) ||
  (Nat.beq first last && Nat.blt last 128 && (Char.ofNat first).isAlpha)

theorem isWordChar_of_areWordCodes {first last n : Nat} (h : areWordCodes first last = true)
    (hfirst : first ≤ n) (hlast : n ≤ last) : isWordChar (Char.ofNat n) = true := by
  simp only [areWordCodes, Bool.or_eq_true, Bool.and_eq_true, Nat.ble_eq, Nat.blt_eq,
    Nat.beq_eq] at h
  rcases h with ⟨⟨hascii, hvalid⟩, hcovers⟩ | ⟨⟨rfl, hascii⟩, halpha⟩
  · have hn : n.isValidChar := by
      rcases hvalid with hlow | hhigh
      · exact Or.inl (by omega)
      · exact Or.inr ⟨by omega, by omega⟩
    rw [isWordChar, toNat_ofNat hn, if_neg (by omega), Bool.or_eq_true]
    exact hcovers.imp (inRanges_of_covers · hfirst hlast) (inRanges_of_covers · hfirst hlast)
  · obtain rfl : first = n := Nat.le_antisymm hfirst hlast
    have hn : first.isValidChar := Or.inl (by omega)
    rw [isWordChar, toNat_ofNat hn, if_pos hascii, Char.isAlphanum, halpha]
    rfl

/-- A character has itself for its upper case, or it is part of a word and has characters of a word for its
upper case. -/
theorem upperChar_cases (c : Char) :
    upperChar c = [c] ∨
      isWordChar c = true ∧ upperChar c ≠ [] ∧ ∀ x ∈ upperChar c, isWordChar x = true := by
  have hexpansions : ∀ entry ∈ upperExpansions, areWordCodes entry.1 entry.1 = true ∧
      entry.2 ≠ [] ∧ ∀ code ∈ entry.2, areWordCodes code code = true := by decide
  -- most runs lie in a range as a whole
  have hruns : ∀ run ∈ upperRuns,
      (areWordCodes run.1 run.2.1 = true ∧
        areWordCodes (run.1 + run.2.2.2 : Int).toNat (run.2.1 + run.2.2.2 : Int).toNat = true) ∨
      ∀ n ∈ List.range' run.1 (run.2.1 + 1 - run.1), (n - run.1) % run.2.2.1 = 0 →
        areWordCodes n n = true ∧
          areWordCodes (n + run.2.2.2 : Int).toNat (n + run.2.2.2 : Int).toNat = true := by
    decide +kernel
  rw [← List.all_eq_true]
  refine upperChar_sources
    (P := fun c cs => cs = [c] ∨ isWordChar c = true ∧ cs ≠ [] ∧ cs.all isWordChar = true)
    (forall_mem_of_all rfl) ?_ ?_ (fun c => Or.inl rfl) c
  · intro entry hmem
    obtain ⟨hfrom, hne, hto⟩ := hexpansions entry hmem
    refine Or.inr ⟨isWordChar_of_areWordCodes hfrom (Nat.le_refl _) (Nat.le_refl _),
      by simpa using hne, ?_⟩
    rw [List.all_eq_true, List.forall_mem_map]
    exact fun code hcode =>
      isWordChar_of_areWordCodes (hto code hcode) (Nat.le_refl _) (Nat.le_refl _)
  · intro run hmem n hn hstep
    suffices h : isWordChar (Char.ofNat n) = true ∧
        isWordChar (Char.ofNat (n + run.2.2.2 : Int).toNat) = true from
      Or.inr ⟨h.1, List.cons_ne_nil _ _, by simpa using h.2⟩
    rcases hruns run hmem with ⟨hfrom, hto⟩ | hpoints
    · rw [List.mem_range'_1] at hn
      exact ⟨isWordChar_of_areWordCodes hfrom hn.1 (by omega),
        isWordChar_of_areWordCodes hto (by omega) (by omega)⟩
    · obtain ⟨hfrom, hto⟩ := hpoints n hn hstep
      exact ⟨isWordChar_of_areWordCodes hfrom (Nat.le_refl _) (Nat.le_refl _),
        isWordChar_of_areWordCodes hto (Nat.le_refl _) (Nat.le_refl _)⟩

end Formulary.Text
