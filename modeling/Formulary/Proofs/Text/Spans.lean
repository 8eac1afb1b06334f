import Mathlib.Data.List.TakeWhile
import Formulary.Text.Blank
import Formulary.Text.Quoted

/-!
# Runs of characters

What `List.takeWhile` and `List.dropWhile` split a text into, and what a reader leaves of it: the rest of
its input (`List.IsSuffix`).
-/

namespace Formulary

/-! ### Runs -/

/-- A run ends before the first character that does not go on with it. -/
theorem takeWhile_append_eq {σ : Type} {p : σ → Bool} {run rest : List σ}
    (hrun : ∀ c ∈ run, p c = true) (hrest : ∀ c ∈ rest.head?, p c = false) :
    (run ++ rest).takeWhile p = run := by
  rw [List.takeWhile_append_of_pos hrun]
  cases rest with
  | nil => exact List.append_nil run
  | cons c rest => rw [List.takeWhile_cons_of_neg (by simp [hrest c rfl]), List.append_nil]

theorem dropWhile_eq_self {σ : Type} {p : σ → Bool} {rest : List σ}
    (hrest : ∀ c ∈ rest.head?, p c = false) : rest.dropWhile p = rest := by
  cases rest with
  | nil => rfl
  | cons c rest => rw [List.dropWhile_cons_of_neg (by simp [hrest c rfl])]

theorem dropWhile_append_eq {σ : Type} {p : σ → Bool} {run rest : List σ}
    (hrun : ∀ c ∈ run, p c = true) (hrest : ∀ c ∈ rest.head?, p c = false) :
    (run ++ rest).dropWhile p = rest := by
  rw [List.dropWhile_append_of_pos hrun, dropWhile_eq_self hrest]

/-- A text that does not go on with a run is not read into. -/
theorem takeWhile_append_stop {σ : Type} {p : σ → Bool} {rest : List σ} (text : List σ)
    (hrest : ∀ c ∈ rest.head?, p c = false) : (text ++ rest).takeWhile p = text.takeWhile p := by
  induction text with
  | nil =>
    cases rest with
    | nil => rfl
    | cons c rest => exact List.takeWhile_cons_of_neg (by simp [hrest c rfl])
  | cons c text ih => cases hc : p c <;> simp [hc, ih]

theorem dropWhile_append_stop {σ : Type} {p : σ → Bool} {rest : List σ} (text : List σ)
    (hrest : ∀ c ∈ rest.head?, p c = false) : (text ++ rest).dropWhile p = text.dropWhile p ++ rest := by
  induction text with
  | nil => exact dropWhile_eq_self hrest
  | cons c text ih => cases hc : p c <;> simp [hc, ih]

theorem take_length_takeWhile {σ : Type} (p : σ → Bool) (text : List σ) :
    text.take (text.takeWhile p).length = text.takeWhile p :=
  (List.prefix_iff_eq_take.mp (List.takeWhile_prefix p)).symm

theorem eq_false_of_mem_head?_dropWhile {σ : Type} {p : σ → Bool} {text : List σ} {c : σ}
    (h : c ∈ (text.dropWhile p).head?) : p c = false := by
  have hhead := List.head?_dropWhile_not p text
  rwa [Option.mem_def.mp h] at hhead

/-! ### Parts -/

/-- A part of a text that a certain character is not in lies before that character or behind it. -/
theorem exists_of_append_cons {σ : Type} {c : σ} {text more before part after : List σ} (hc : c ∉ part)
    (h : text ++ c :: more = before ++ part ++ after) :
    (∃ after', text = before ++ part ++ after' ∧ after = after' ++ c :: more) ∨
      ∃ before', before = text ++ c :: before' ∧ more = before' ++ part ++ after := by
  rcases List.append_eq_append_iff.mp h with ⟨left, hleft, hafter⟩ | ⟨left, htext, hafter⟩
  · cases left with
    | nil => exact Or.inl ⟨[], by simpa using hleft.symm, by simpa using hafter.symm⟩
    | cons d left =>
      obtain ⟨rfl, rfl⟩ := List.cons.inj hafter
      rcases List.append_eq_append_iff.mp hleft with ⟨left', -, hpart⟩ | ⟨left', hbefore, hpart⟩
      · exact absurd (by simp [hpart]) hc
      · cases left' with
        | nil => exact absurd (hpart ▸ List.mem_cons_self : c ∈ [] ++ part) hc
        | cons d left' =>
          obtain ⟨rfl, rfl⟩ := List.cons.inj hpart
          exact Or.inr ⟨left', hbefore, rfl⟩
  · exact Or.inl ⟨left, htext, hafter⟩

/-! ### What is left -/

namespace Taken

variable {σ α : Type} {input rest : List σ} {value : α} {t : Taken α input}

/-- What was taken is what is before the rest. -/
theorem consumed_eq {written : List σ} (h : input = written ++ t.rest) : t.consumed = written := by
  have hlength := congrArg List.length h
  rw [List.length_append] at hlength
  rw [consumed, hlength, Nat.add_sub_cancel, h, List.take_left]

theorem of?_eq_some (h : Taken.of? input value rest = some t) : t.value = value ∧ t.rest = rest := by
  rw [Taken.of?] at h
  split at h
  · obtain rfl := Option.some.inj h
    exact ⟨rfl, rfl⟩
  · exact absurd h (by simp)

end Taken

/-! ### Steps on a longer input -/

/-- The same is read off an input that goes on with more, which is left behind the rest. -/
structure Taken.Extends {σ α : Type} {input more : List σ} (t : Taken α input)
    (t' : Taken α (input ++ more)) : Prop where
  /-- The value is the same. -/
  value : t'.value = t.value
  /-- What the input goes on with is left. -/
  rest : t'.rest = t.rest ++ more

namespace Taken.Extends

variable {σ α β : Type} {input more : List σ} {t : Taken α input} {t' : Taken α (input ++ more)}

theorem map (h : t.Extends t') (f : α → β) : (t.map f).Extends (t'.map f) :=
  ⟨congrArg f h.value, h.rest⟩

/-- The same part of the input is taken. -/
theorem consumed (h : t.Extends t') : t'.consumed = t.consumed := by
  have hshorter := t.shorter
  have hlength : (input ++ more).length - (t.rest ++ more).length = input.length - t.rest.length := by
    simp only [List.length_append]
    omega
  rw [Taken.consumed, Taken.consumed, h.rest, hlength, List.take_append_of_le_length (Nat.sub_le _ _)]

end Taken.Extends

/-- A value with a rest is read off a longer input if it is read off the input. -/
theorem Taken.exists_of?_append {σ α : Type} {input rest : List σ} {value : α} {t : Taken α input}
    (h : Taken.of? input value rest = some t) (more : List σ) :
    ∃ t', Taken.of? (input ++ more) value (rest ++ more) = some t' ∧ t.Extends t' := by
  have hshorter := t.shorter
  obtain ⟨rfl, rfl⟩ := Taken.of?_eq_some h
  rw [Taken.of?, dif_pos (by simpa using hshorter)]
  exact ⟨_, rfl, rfl, rfl⟩

/-- What is left behind a quoted text is the rest of the input. -/
theorem Text.rest_suffix_of_afterQuote? {q : Char} {input : List Char}
    {t : Taken (List Char) input} (h : Text.afterQuote? q input = some t) : t.rest <:+ input := by
  fun_induction Text.afterQuote? q input with
  | case1 => exact absurd h (by simp)
  | case2 =>
    obtain rfl := Option.some.inj h
    exact List.nil_suffix
  | case3 => exact absurd h (by simp)
  | case4 rest ih =>
    obtain ⟨t, ht, rfl⟩ := Option.map_eq_some_iff.mp h
    exact (ih ht).trans ⟨[q, q], rfl⟩
  | case5 d rest =>
    obtain rfl := Option.some.inj h
    exact List.suffix_cons _ _
  | case6 c d rest _ ih =>
    obtain ⟨t, ht, rfl⟩ := Option.map_eq_some_iff.mp h
    exact (ih ht).trans (List.suffix_cons _ _)

namespace Text

@[simp] theorem byteLength_append (text more : List Char) :
    byteLength (text ++ more) = byteLength text + byteLength more := by
  induction text with
  | nil => rw [List.nil_append, byteLength_nil, Nat.zero_add]
  | cons c text ih => rw [List.cons_append, byteLength_cons, byteLength_cons, ih, Nat.add_assoc]

/-! ### Quoted texts -/

/-- What is read off the front of a quoted text, with what is left. -/
def splitQuoted? (q : Char) (input : List Char) : Option (List Char × List Char) :=
  (afterQuote? q input).map fun t => (t.value, t.rest)

variable {q c : Char} {rest : List Char}

theorem splitQuoted?_end (hrest : rest.head? ≠ some q) : splitQuoted? q (q :: rest) = some ([], rest) := by
  cases rest with
  | nil => simp [splitQuoted?, afterQuote?]
  | cons d rest =>
    have hd : d ≠ q := by simpa using hrest
    simp [splitQuoted?, afterQuote?, hd]

theorem splitQuoted?_twice :
    splitQuoted? q (q :: q :: rest) = (splitQuoted? q rest).map fun p => (q :: p.1, p.2) := by
  simp only [splitQuoted?, afterQuote?, if_true, Option.map_map]
  rfl

theorem splitQuoted?_other (hc : c ≠ q) :
    splitQuoted? q (c :: rest) = (splitQuoted? q rest).map fun p => (c :: p.1, p.2) := by
  cases rest with
  | nil => simp [splitQuoted?, afterQuote?, hc]
  | cons d rest =>
    simp only [splitQuoted?, afterQuote?, if_neg hc, Option.map_map]
    rfl

/-- A quoted text is read back, up to the quote that ends it. -/
theorem splitQuoted?_doubled (text : List Char) (hrest : rest.head? ≠ some q) :
    splitQuoted? q (doubled q text ++ q :: rest) = some (text, rest) := by
  induction text with
  | nil => exact splitQuoted?_end hrest
  | cons c text ih =>
    -- a quote in the text is written twice, and so it does not end it
    by_cases hc : c = q
    · subst hc
      rw [doubled, if_pos rfl, List.cons_append, List.cons_append, splitQuoted?_twice, ih]
      rfl
    · rw [doubled, if_neg hc, List.cons_append, splitQuoted?_other hc, ih]
      rfl

/-- Only quotes are doubled. -/
theorem doubled_eq_self {text : List Char} (h : ∀ c ∈ text, c ≠ q) : doubled q text = text := by
  induction text with
  | nil => rfl
  | cons c text ih =>
    obtain ⟨hc, htext⟩ := List.forall_mem_cons.mp h
    rw [doubled, if_neg hc, ih htext]

theorem exists_afterQuote?_doubled (text : List Char) (hrest : rest.head? ≠ some q) :
    ∃ t, afterQuote? q (doubled q text ++ q :: rest) = some t ∧ t.value = text ∧ t.rest = rest := by
  obtain ⟨t, ht, hpair⟩ := Option.map_eq_some_iff.mp (splitQuoted?_doubled text hrest)
  exact ⟨t, ht, (Prod.mk.inj hpair).1, (Prod.mk.inj hpair).2⟩

/-- A quoted text is read up to the same quote if no quote follows. -/
theorem splitQuoted?_append (hrest : rest.head? ≠ some q) {input text left : List Char}
    (h : splitQuoted? q input = some (text, left)) :
    splitQuoted? q (input ++ rest) = some (text, left ++ rest) := by
  -- by the cases of the reader, which looks at two characters at a time
  fun_induction afterQuote? q input generalizing text left with
  | case1 => contradiction
  | case2 =>
    obtain ⟨rfl, rfl⟩ : [] = text ∧ [] = left := by simpa [splitQuoted?, afterQuote?] using h
    exact splitQuoted?_end hrest
  | case3 c hc => simp [splitQuoted?, afterQuote?, hc] at h
  | case4 more ih =>
    rw [splitQuoted?_twice] at h
    obtain ⟨⟨text', left'⟩, h', heq⟩ := Option.map_eq_some_iff.mp h
    obtain ⟨rfl, rfl⟩ := Prod.mk.inj heq
    rw [List.cons_append, List.cons_append, splitQuoted?_twice, ih h']
    rfl
  | case5 d more hd =>
    -- the quote that ends the text has a character behind it that is no quote
    rw [splitQuoted?_end (by simpa using hd)] at h
    obtain ⟨rfl, rfl⟩ := Prod.mk.inj (Option.some.inj h)
    exact splitQuoted?_end (by simpa using hd)
  | case6 c d more hc ih =>
    rw [splitQuoted?_other hc] at h
    obtain ⟨⟨text', left'⟩, h', heq⟩ := Option.map_eq_some_iff.mp h
    obtain ⟨rfl, rfl⟩ := Prod.mk.inj heq
    rw [List.cons_append, splitQuoted?_other hc, ih h']
    rfl

theorem exists_afterQuote?_append {input : List Char} (hrest : rest.head? ≠ some q)
    {t : Taken (List Char) input} (h : afterQuote? q input = some t) :
    ∃ t', afterQuote? q (input ++ rest) = some t' ∧ t.Extends t' := by
  have hsplit : splitQuoted? q input = some (t.value, t.rest) := by
    rw [splitQuoted?, h]
    rfl
  obtain ⟨t', ht', heq⟩ := Option.map_eq_some_iff.mp (splitQuoted?_append hrest hsplit)
  exact ⟨t', ht', (Prod.mk.inj heq).1, (Prod.mk.inj heq).2⟩

/-- Without a quote a text ends before it is read. -/
theorem splitQuoted?_eq_none_of_not_mem {text : List Char} (h : q ∉ text) : splitQuoted? q text = none := by
  induction text with
  | nil => rfl
  | cons c text ih =>
    rw [List.mem_cons, not_or] at h
    rw [splitQuoted?_other (Ne.symm h.1), ih h.2]
    rfl

/-- More text without a quote does not end a quoted text either. -/
theorem splitQuoted?_append_eq_none {input more : List Char} (hmore : q ∉ more)
    (h : splitQuoted? q input = none) : splitQuoted? q (input ++ more) = none := by
  fun_induction afterQuote? q input with
  | case1 => exact splitQuoted?_eq_none_of_not_mem hmore
  | case2 => simp [splitQuoted?, afterQuote?] at h
  | case3 c hc =>
    rw [List.singleton_append, splitQuoted?_other hc, splitQuoted?_eq_none_of_not_mem hmore]
    rfl
  | case4 rest ih =>
    rw [splitQuoted?_twice, Option.map_eq_none_iff] at h
    rw [List.cons_append, List.cons_append, splitQuoted?_twice, ih h]
    rfl
  | case5 d rest hd =>
    rw [splitQuoted?_end (by simpa using hd)] at h
    contradiction
  | case6 c d rest hc ih =>
    rw [splitQuoted?_other hc, Option.map_eq_none_iff] at h
    rw [List.cons_append, splitQuoted?_other hc, ih h]
    rfl

theorem afterQuote?_append_eq_none {input more : List Char} (hmore : q ∉ more)
    (h : afterQuote? q input = none) : afterQuote? q (input ++ more) = none :=
  Option.map_eq_none_iff.mp (splitQuoted?_append_eq_none hmore (Option.map_eq_none_iff.mpr h))

/-! ### White space at the ends -/

/-- What is trimmed off behind a text is white space. -/
theorem exists_trimStart (text : List Char) :
    ∃ after, (∀ c ∈ after, isBlank c = true) ∧ trimStart text = trim text ++ after := by
  refine ⟨((trimStart text).reverse.takeWhile isBlank).reverse, fun c hc => ?_, ?_⟩
  · exact List.mem_takeWhile_imp (List.mem_reverse.mp hc)
  · rw [trim, trimEnd, ← List.reverse_append, List.takeWhile_append_dropWhile, List.reverse_reverse]

/-- What is trimmed off a text is the white space before it and white space behind it. -/
theorem exists_trim (text : List Char) :
    ∃ after, (∀ c ∈ after, isBlank c = true) ∧ text = text.takeWhile isBlank ++ (trim text ++ after) := by
  obtain ⟨after, hafter, hstart⟩ := exists_trimStart text
  exact ⟨after, hafter, by rw [← hstart, trimStart, List.takeWhile_append_dropWhile]⟩

/-- White space is trimmed off a text that neither starts nor ends with any. -/
theorem trim_padded {before text after : List Char} (hbefore : ∀ c ∈ before, isBlank c = true)
    (hne : text ≠ []) (hfirst : ∀ c ∈ text.head?, isBlank c = false)
    (hlast : ∀ c ∈ text.getLast?, isBlank c = false) (hafter : ∀ c ∈ after, isBlank c = true) :
    trim (before ++ (text ++ after)) = text := by
  have hstart : ∀ c ∈ (text ++ after).head?, isBlank c = false := by
    obtain ⟨c, more, rfl⟩ := List.exists_cons_of_ne_nil hne
    exact hfirst
  have hafter' : ∀ c ∈ after.reverse, isBlank c = true := fun c hc => hafter c (List.mem_reverse.mp hc)
  rw [← List.head?_reverse] at hlast
  rw [trim, trimStart, dropWhile_append_eq hbefore hstart, trimEnd, List.reverse_append,
    dropWhile_append_eq hafter' hlast, List.reverse_reverse]

/-- There is nothing to trim off a text that neither starts nor ends with white space. -/
theorem trim_eq_self {text : List Char} (hfirst : ∀ c ∈ text.head?, isBlank c = false)
    (hlast : ∀ c ∈ text.getLast?, isBlank c = false) : trim text = text := by
  rw [← List.head?_reverse] at hlast
  rw [trim, trimStart, dropWhile_eq_self hfirst, trimEnd, dropWhile_eq_self hlast,
    List.reverse_reverse]

end Text

end Formulary
