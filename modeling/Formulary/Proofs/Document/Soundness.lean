import Formulary.Proofs.Document.Grammar

/-!
# What is read is a document

A reader of documents reads nothing but JSON: whatever it takes off the front of a text is written as the
grammar says (`takes_value?`). So every text that it reads as an array is one (`isArrayText_of_ofChars?`), and
the grammar leaves out nothing that is read.
-/

namespace Formulary.Document

variable {α : Type} {text kept rest : List Char} {close : Char} {e : Element}

/-! ### Numbers -/

theorem isDigits_takeWhile (h : ¬(text.takeWhile Char.isDigit).isEmpty = true) :
    IsDigits (text.takeWhile Char.isDigit) :=
  ⟨by simpa using h, fun _ hc => List.mem_takeWhile_imp hc⟩

theorem isWhole_of_whole? (h : whole? text = some (kept, rest)) : text = kept ++ rest ∧ IsWhole kept := by
  cases text with
  | nil => exact absurd h (by simp [whole?])
  | cons c more =>
    by_cases hc : c = '0'
    · subst hc
      obtain ⟨rfl, rfl⟩ : ['0'] = kept ∧ more = rest := by
        cases more with
        | nil => simpa [whole?] using h
        | cons d more => cases hd : d.isDigit <;> simp_all [whole?]
      exact ⟨rfl, ⟨by simp, by simp⟩, by simp⟩
    · rw [whole?_of_ne_zero hc] at h
      split at h
      · exact absurd h (by simp)
      · next htaken =>
        cases h
        refine ⟨List.takeWhile_append_dropWhile.symm, isDigits_takeWhile htaken, fun others hzero => ?_⟩
        -- digits that start with a zero would have been taken by the first case
        rw [List.takeWhile_cons] at hzero
        split at hzero
        · exact absurd (List.cons.inj hzero).1 hc
        · exact absurd hzero (by simp)

theorem isPlaces_of_fraction? (h : fraction? text = some (kept, rest)) :
    text = kept ++ rest ∧ IsPlaces kept := by
  -- behind a point there are digits; without one nothing is taken
  by_cases hpoint : text.head? = some '.'
  · obtain ⟨places, rfl⟩ : ∃ places, text = '.' :: places := List.head?_eq_some_iff.mp hpoint
    rw [fraction?] at h
    split at h
    · exact absurd h (by simp)
    · next htaken =>
      cases h
      refine ⟨?_, .present (isDigits_takeWhile htaken)⟩
      rw [List.cons_append, List.takeWhile_append_dropWhile]
  · rw [fraction?_of_ne_point fun c hc heq => hpoint (heq ▸ hc)] at h
    cases h
    exact ⟨rfl, .absent⟩

theorem exists_exponentSign (text : List Char) :
    ∃ sign ∈ [[], ['+'], ['-']], text = sign ++ (exponentSign text).2 := by
  rw [exponentSign.eq_def]
  split
  · exact ⟨['+'], by simp, rfl⟩
  · exact ⟨['-'], by simp, rfl⟩
  · exact ⟨[], by simp, rfl⟩

theorem exists_isExponent (h : exponent? text = some (kept, rest)) :
    ∃ written, text = written ++ rest ∧ IsExponent written := by
  -- without the mark of an exponent nothing is taken
  by_cases hmark : ∀ c ∈ text.head?, c ≠ 'e' ∧ c ≠ 'E'
  · rw [exponent?_of_ne_mark hmark] at h
    cases h
    exact ⟨[], rfl, .absent⟩
  · obtain ⟨c, more, rfl, hc⟩ : ∃ c more, text = c :: more ∧ (c = 'e' ∨ c = 'E') := by
      cases text with
      | nil => exact absurd (by simp) hmark
      | cons c more => exact ⟨c, more, rfl, by simpa [Decidable.or_iff_not_imp_left] using hmark⟩
    rw [exponent?_of_mark hc] at h
    split at h
    · exact absurd h (by simp)
    · next htaken =>
      cases h
      obtain ⟨sign, hsign, hmore⟩ := exists_exponentSign more
      refine ⟨_, ?_, .present hc hsign (isDigits_takeWhile htaken)⟩
      rw [List.cons_append, List.append_assoc, List.takeWhile_append_dropWhile, ← hmore]

theorem exists_isNumber_of_unsigned? {sign : List Char} (hsign : sign ∈ [[], ['-']])
    (h : unsigned? sign text = some (kept, rest)) :
    ∃ written, sign ++ text = written ++ rest ∧ IsNumber written := by
  obtain ⟨whole, text₁, places, text₂, exponent, hwhole, hplaces, hexponent, -⟩ := unsigned?_eq_some.mp h
  obtain ⟨rfl, hwhole'⟩ := isWhole_of_whole? hwhole
  obtain ⟨rfl, hplaces'⟩ := isPlaces_of_fraction? hplaces
  obtain ⟨written, rfl, hexponent'⟩ := exists_isExponent hexponent
  exact ⟨_, by simp only [List.append_assoc], .intro hsign hwhole' hplaces' hexponent'⟩

/-- What is read as a number is one. -/
theorem exists_isNumber (h : number? text = some (kept, rest)) :
    ∃ written, text = written ++ rest ∧ IsNumber written := by
  by_cases hminus : text.head? = some '-'
  · obtain ⟨more, rfl⟩ : ∃ more, text = '-' :: more := List.head?_eq_some_iff.mp hminus
    rw [number?_minus] at h
    exact exists_isNumber_of_unsigned? (by simp) h
  · rw [number?_of_ne_minus fun c hc heq => hminus (heq ▸ hc)] at h
    exact exists_isNumber_of_unsigned? (by simp) h

/-! ### Strings -/

/-- Where a character has been put in front of what was read, the rest is what reading left. -/
theorem exists_of_map_put {read? : Option (List Char × List Char)} {c : Char} {s : List Char}
    (h : read?.map (fun read => (c :: read.1, read.2)) = some (s, rest)) : ∃ s', read? = some (s', rest) := by
  obtain ⟨⟨s', left⟩, hread, heq⟩ := Option.map_eq_some_iff.mp h
  obtain ⟨-, rfl⟩ := Prod.mk.inj heq
  exact ⟨s', hread⟩

/-- What is read as the inside of a string is one, with a quote behind it. -/
theorem exists_isBody {s : List Char} (h : stringBody? text = some (s, rest)) :
    ∃ body, text = body ++ '"' :: rest ∧ IsBody escapes body := by
  fun_induction stringBody? text generalizing s
  case case1 =>
    cases h
    exact ⟨[], rfl, .nil⟩
  case case5 _ _ _ _ unit hunit _ _ _ _ _ _ _ low hlow _ ih =>
    obtain ⟨s, hread⟩ := exists_of_map_put h
    obtain ⟨body, rfl, hbody⟩ := ih hread
    have hcode := IsBody.code (exists_hexQuad?_iff.mp ⟨low, hlow⟩) hbody
    exact ⟨_, rfl, .code (exists_hexQuad?_iff.mp ⟨unit, hunit⟩) hcode⟩
  case case8 _ _ _ _ _ unit hunit _ _ ih =>
    obtain ⟨s, hread⟩ := exists_of_map_put h
    obtain ⟨body, rfl, hbody⟩ := ih hread
    exact ⟨_, rfl, .code (exists_hexQuad?_iff.mp ⟨unit, hunit⟩) hbody⟩
  case case10 _ _ _ c hc ih =>
    obtain ⟨s, hread⟩ := exists_of_map_put h
    obtain ⟨body, rfl, hbody⟩ := ih hread
    exact ⟨_, rfl, .letter (mem_escapes_iff.mpr ⟨c, hc⟩) hbody⟩
  case case12 hquote _ _ hplain ih =>
    obtain ⟨s, hread⟩ := exists_of_map_put h
    obtain ⟨body, rfl, hbody⟩ := ih hread
    obtain ⟨hbackslash, hcontrol⟩ := not_or.mp hplain
    exact ⟨_, rfl, .plain (Nat.le_of_not_lt hcontrol) hquote hbackslash hbody⟩
  -- all else is refused
  all_goals exact absurd h (by simp)

/-! ### Values -/

/-- The reader takes such a part off the front of any text that it takes anything off. -/
def Takes (part : Part) (read? : (text : List Char) → Option (Taken α text)) : Prop :=
  ∀ text t, read? text = some t → ∃ written, text = written ++ t.rest ∧ IsWritten escapes part written

theorem exists_gap (text : List Char) : ∃ gap, IsGap gap ∧ text = gap ++ skipSpace text :=
  ⟨text.takeWhile isSpace, fun _ hc => List.mem_takeWhile_imp hc,
    List.takeWhile_append_dropWhile.symm⟩

theorem after?_eq_some {word : List Char} (h : after? word text = some rest) : text = word ++ rest := by
  induction word generalizing text with
  | nil => exact Option.some.inj h
  | cons c word ih =>
    cases text with
    | nil => exact absurd h (by simp [after?])
    | cons d text =>
      rw [after?] at h
      split at h
      · next heq => rw [ih h, heq, List.cons_append]
      · exact absurd h (by simp)

theorem takes_word {c : Char} {word : List Char} {d : Document} {t : Taken Document (c :: text)}
    (hword : c :: word ∈ words) (h : (after? word text).bind (Taken.of? (c :: text) d) = some t) :
    ∃ written, c :: text = written ++ t.rest ∧ IsWritten escapes (.one .value) written := by
  obtain ⟨left, hread, ht⟩ := Option.bind_eq_some_iff.mp h
  obtain ⟨-, hrest⟩ := Taken.of?_eq_some ht
  exact ⟨c :: word, by rw [hrest, after?_eq_some hread, List.cons_append], .word hword⟩

theorem takes_scalar? : Takes (.one .value) scalar? := by
  intro text t h
  rw [scalar?.eq_def] at h
  split at h
  · -- a string
    obtain ⟨⟨s, left⟩, hread, ht⟩ := Option.bind_eq_some_iff.mp h
    obtain ⟨-, hrest⟩ := Taken.of?_eq_some ht
    obtain ⟨body, rfl, hbody⟩ := exists_isBody hread
    exact ⟨_, by simp [hrest], .string hbody⟩
  · -- one of the three words
    exact takes_word (mem_words_iff.mpr (Or.inl rfl)) h
  · exact takes_word (mem_words_iff.mpr (Or.inr (Or.inl rfl))) h
  · exact takes_word (mem_words_iff.mpr (Or.inr (Or.inr rfl))) h
  · -- all else is a number, or nothing
    obtain ⟨⟨kept, left⟩, hread, ht⟩ := Option.bind_eq_some_iff.mp h
    obtain ⟨-, hrest⟩ := Taken.of?_eq_some ht
    obtain ⟨written, htext, hnumber⟩ := exists_isNumber hread
    exact ⟨written, by rw [hrest, htext], .number hnumber⟩

variable {read? : (text : List Char) → Option (Taken α text)}

/-- White space before a list of elements belongs to the first. -/
theorem IsWritten.padded {gap : List Char} (hgap : IsGap gap) (h : IsWritten escapes (.several e) text) :
    IsWritten escapes (.several e) (gap ++ text) := by
  cases h with
  | last hbefore h hafter =>
    rw [← List.append_assoc]
    exact .last (hgap.append hbefore) h hafter
  | more hbefore h hafter hmore =>
    rw [← List.append_assoc]
    exact .more (hgap.append hbefore) h hafter hmore

/-- What is read as a list of elements is one, with the closing bracket behind it. -/
theorem exists_isWritten_of_items? (hitem : Takes (.one e) read?) {t : Taken (List α) text}
    (h : items? close read? text = some t) :
    ∃ written, text = written ++ close :: t.rest ∧ IsWritten escapes (.several e) written := by
  fun_induction items? close read? text
  case case3 item hread left hleft _ more hmore ih =>
    -- an element with a comma behind it, and the elements behind the comma
    obtain rfl := Option.some.inj h
    obtain ⟨written, htext, hwritten⟩ := hitem _ _ hread
    obtain ⟨after, hafter, hbehind⟩ := exists_gap item.rest
    obtain ⟨gap, hgap, hpadding⟩ := exists_gap left
    obtain ⟨others, hothers, hlist⟩ := ih hmore
    rw [hleft, hpadding, hothers] at hbehind
    refine ⟨_, htext.trans ?_, .more isGap_nil hwritten hafter (hlist.padded hgap)⟩
    rw [hbehind]
    simp
  case case4 item hread left _ hleft =>
    -- the last element, with the bracket behind it
    obtain rfl := Option.some.inj h
    obtain ⟨written, htext, hwritten⟩ := hitem _ _ hread
    obtain ⟨after, hafter, hbehind⟩ := exists_gap item.rest
    rw [hleft] at hbehind
    refine ⟨_, htext.trans ?_, .last isGap_nil hwritten hafter⟩
    rw [hbehind]
    simp
  -- all else is refused
  all_goals exact absurd h (by simp)

/-- What is read between brackets is nothing but white space, or a list of elements. -/
theorem exists_content (hitem : Takes (.one e) read?) {t : Taken (List α) text}
    (h : bracketed? close read? text = some t) :
    ∃ content, text = content ++ close :: t.rest ∧
      (IsGap content ∨ IsWritten escapes (.several e) content) := by
  obtain ⟨gap, hgap, hpadding⟩ := exists_gap text
  rw [bracketed?] at h
  split at h
  · next c more hskip =>
    split at h
    · next hc =>
      -- the bracket is closed at once
      obtain rfl := Option.some.inj h
      exact ⟨gap, hpadding.trans (congrArg _ (hskip.trans (congrArg (· :: more) hc))), Or.inl hgap⟩
    · obtain ⟨t, hitems, rfl⟩ := Option.map_eq_some_iff.mp h
      obtain ⟨written, htext, hwritten⟩ := exists_isWritten_of_items? hitem hitems
      refine ⟨gap ++ written, ?_, Or.inr (hwritten.padded hgap)⟩
      rw [List.append_assoc]
      exact hpadding.trans (congrArg _ htext)
  · exact absurd h (by simp)

theorem takes_member? {depth : Nat} (hvalue : Takes (.one .value) (value? depth)) :
    Takes (.one .member) (member? (value? depth)) := by
  intro text t h
  rw [member?.eq_def] at h
  split at h
  · next more =>
    obtain ⟨⟨name, left⟩, hname, h⟩ := Option.bind_eq_some_iff.mp h
    obtain ⟨behind, hcolon, h⟩ := Option.bind_eq_some_iff.mp h
    obtain ⟨value, hread, ht⟩ := Option.bind_eq_some_iff.mp h
    obtain ⟨-, hrest⟩ := Taken.of?_eq_some ht
    -- a name, a colon and a value, with white space around the colon
    obtain ⟨body, rfl, hbody⟩ := exists_isBody hname
    obtain ⟨before, hbefore, hleft⟩ := exists_gap left
    obtain ⟨after, hafter, hbehind⟩ := exists_gap behind
    obtain ⟨written, htext, hwritten⟩ := hvalue _ _ hread
    rw [htext] at hbehind
    rw [after?_eq_some hcolon, hbehind] at hleft
    refine ⟨_, ?_, .member hbody hbefore hafter hwritten⟩
    rw [hrest, hleft]
    simp
  · exact absurd h (by simp)

/-- What is read as an array is one. -/
theorem exists_isWritten_of_array {depth : Nat} (hvalue : Takes (.one .value) (value? depth))
    {t : Taken (List Document) text} (h : bracketed? ']' (value? depth) text = some t) :
    ∃ inner, '[' :: text = '[' :: inner ++ t.rest ∧ IsWritten escapes (.one .value) ('[' :: inner) := by
  obtain ⟨content, htext, hcontent⟩ := exists_content hvalue h
  refine ⟨content ++ [']'], (congrArg ('[' :: ·) htext).trans ?_, hcontent.elim .emptyArray .array⟩
  simp

/-- **What is read as a value is one.** -/
theorem takes_value? (depth : Nat) : Takes (.one .value) (value? depth) := by
  -- on how deep values may still be nested; where no more nesting is allowed only scalars are read
  induction depth with
  | zero => exact takes_scalar?
  | succ depth ih =>
    intro text t h
    rw [value?.eq_def] at h
    dsimp only at h
    split at h
    · obtain ⟨t, hread, rfl⟩ := Option.map_eq_some_iff.mp h
      obtain ⟨inner, htext, hwritten⟩ := exists_isWritten_of_array ih hread
      exact ⟨_, htext, hwritten⟩
    · obtain ⟨t, hread, rfl⟩ := Option.map_eq_some_iff.mp h
      obtain ⟨content, htext, hcontent⟩ := exists_content (takes_member? ih) hread
      refine ⟨'\x7b' :: (content ++ ['\x7d']), (congrArg ('\x7b' :: ·) htext).trans ?_,
        hcontent.elim .emptyObject .object⟩
      simp
    · exact takes_scalar? _ _ h

theorem scalar?_ne_array {t : Taken Document text} (h : scalar? text = some t) (items : List Document) :
    t.value ≠ .array items := by
  rw [scalar?.eq_def] at h
  split at h
  all_goals
    obtain ⟨_, -, ht⟩ := Option.bind_eq_some_iff.mp h
    rw [(Taken.of?_eq_some ht).1]
    simp

/-- A value that is an array has been read behind its bracket. -/
theorem exists_isWritten_of_value?_array {depth : Nat} {t : Taken Document text} {items : List Document}
    (h : value? depth text = some t) (hvalue : t.value = .array items) :
    ∃ inner, text = '[' :: inner ++ t.rest ∧ IsWritten escapes (.one .value) ('[' :: inner) := by
  cases depth with
  | zero => exact absurd hvalue (scalar?_ne_array h items)
  | succ depth =>
    rw [value?.eq_def] at h
    dsimp only at h
    split at h
    · obtain ⟨t, hread, rfl⟩ := Option.map_eq_some_iff.mp h
      exact exists_isWritten_of_array (takes_value? depth) hread
    · obtain ⟨t, -, rfl⟩ := Option.map_eq_some_iff.mp h
      exact absurd hvalue (by simp [ofMembers])
    · exact absurd hvalue (scalar?_ne_array h items)

/-- **Every text that is read as an array is one.** -/
theorem isArrayText_of_ofChars? {items : List Document} (h : ofChars? text = some (.array items)) :
    IsArrayText escapes text := by
  obtain ⟨before, hbefore, hpadding⟩ := exists_gap text
  rw [ofChars?] at h
  split at h
  · exact absurd h (by simp)
  · next t ht =>
    split at h
    · next hend =>
      obtain ⟨inner, htext, hwritten⟩ := exists_isWritten_of_value?_array ht (Option.some.inj h)
      have hafter : IsGap t.rest := List.dropWhile_eq_nil_iff.mp (List.isEmpty_iff.mp hend)
      rw [hpadding, htext]
      exact .intro hbefore hwritten hafter
    · exact absurd h (by simp)

end Formulary.Document
