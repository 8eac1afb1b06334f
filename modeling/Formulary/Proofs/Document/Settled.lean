import Formulary.Proofs.Document.Grammar
import Formulary.Proofs.Document.Roundtrip

/-!
# Documents are read by themselves

Whether a reader takes a JSON text, and as which document, depends on the text alone: what follows does not
matter unless it goes on with a number (`IsWritten.settles`). So white space around an array does not matter
either (`ofChars?_padded`).

Readers do refuse texts of the grammar: those nested deeper than they go, and those with half a character.
-/

namespace Formulary.Document

variable {α : Type} {letters text gap before after body rest : List Char} {close : Char} {depth : Nat}

/-! ### Strings -/

/-- The inside of a string is read up to the quote behind it, or it is not read, whatever follows. -/
def BodySettles (read? : List Char → Option (List Char × List Char)) (body : List Char) : Prop :=
  (∃ s, ∀ rest, read? (body ++ '"' :: rest) = some (s, rest)) ∨ ∀ rest, read? (body ++ '"' :: rest) = none

theorem BodySettles.behind {next? read? : List Char → Option (List Char × List Char)}
    (h : BodySettles next? body) (front : List Char) (put : List Char → List Char)
    (hread : ∀ rest, read? (front ++ rest) = (next? rest).map fun read => (put read.1, read.2)) :
    BodySettles read? (front ++ body) := by
  rcases h with ⟨s, hs⟩ | hnone
  · refine Or.inl ⟨put s, fun rest => ?_⟩
    rw [List.append_assoc, hread, hs]
    rfl
  · refine Or.inr fun rest => ?_
    rw [List.append_assoc, hread, hnone]
    rfl

/-- The character of two halves. -/
def ofHalves (high low : Nat) : Char := Char.ofNat (0x10000 + (high - 0xD800) * 0x400 + (low - 0xDC00))

/-- Reads on behind the code of the first half of a character. -/
def behindHalf? (unit : Nat) : List Char → Option (List Char × List Char)
  | '\\' :: 'u' :: a :: b :: c :: d :: rest =>
    match hexQuad? a b c d with
    | none => none
    | some low =>
      if 0xDC00 ≤ low ∧ low ≤ 0xDFFF then
        (stringBody? rest).map fun read => (ofHalves unit low :: read.1, read.2)
      else none
  | _ => none

theorem stringBody?_code {a b c d : Char} {unit : Nat} (h : hexQuad? a b c d = some unit)
    (rest : List Char) :
    stringBody? ('\\' :: 'u' :: a :: b :: c :: d :: rest) =
      if 0xDC00 ≤ unit ∧ unit ≤ 0xDFFF then none
      else if 0xD800 ≤ unit ∧ unit ≤ 0xDBFF then behindHalf? unit rest
      else (stringBody? rest).map fun read => (Char.ofNat unit :: read.1, read.2) := by
  rw [stringBody?, h]
  rfl

theorem behindHalf?_eq_none {text : List Char} (unit : Nat) (h : ∀ more, text ≠ '\\' :: 'u' :: more) :
    behindHalf? unit text = none := by
  rw [behindHalf?]
  rintro a b c d rest rfl
  exact h _ rfl

/-- **The inside of a string is read by itself**, also behind half of a character. -/
theorem IsBody.settles (h : IsBody escapes body) :
    BodySettles stringBody? body ∧ ∀ unit, BodySettles (behindHalf? unit) body := by
  induction h with
  | nil =>
    -- here and in the next two cases no code follows that could complete half of a character
    refine ⟨Or.inl ⟨[], fun rest => ?_⟩, fun unit => Or.inr fun rest => ?_⟩
    · rw [List.nil_append, stringBody?]
    · exact behindHalf?_eq_none unit (by simp)
  | @plain c body hcontrol hquote hbackslash _ ih =>
    refine ⟨ih.1.behind [c] (c :: ·) fun rest => ?_, fun unit => Or.inr fun rest => ?_⟩
    · rw [List.singleton_append, stringBody?.eq_4 _ _ hquote (fun _ _ _ _ _ heq _ => hbackslash heq)
        fun _ _ heq _ => hbackslash heq, if_neg (not_or.mpr ⟨hbackslash, by omega⟩)]
    · exact behindHalf?_eq_none unit (by simp [hbackslash])
  | @letter letter body hletter _ ih =>
    obtain ⟨c, hc⟩ := mem_escapes_iff.mp hletter
    -- a letter is not the mark of a code
    have hu : letter ≠ 'u' := by
      rintro rfl
      exact absurd hletter (by decide)
    refine ⟨ih.1.behind ['\\', letter] (c :: ·) fun rest => ?_, fun unit => Or.inr fun rest => ?_⟩
    · change stringBody? ('\\' :: letter :: rest) = _
      rw [stringBody?.eq_3 _ _ fun _ _ _ _ _ heq _ => hu heq, hc]
    · exact behindHalf?_eq_none unit (by simp [hu])
  | @code a b c d body hdigits _ ih =>
    obtain ⟨quad, hquad⟩ := exists_hexQuad?_iff.mpr hdigits
    refine ⟨?_, fun unit => ?_⟩
    · -- the code is that of a second half, of a first half, or of a whole character
      by_cases hlow : 0xDC00 ≤ quad ∧ quad ≤ 0xDFFF
      · refine Or.inr fun rest => ?_
        change stringBody? ('\\' :: 'u' :: a :: b :: c :: d :: (body ++ '"' :: rest)) = _
        rw [stringBody?_code hquad, if_pos hlow]
      by_cases hhigh : 0xD800 ≤ quad ∧ quad ≤ 0xDBFF
      · refine (ih.2 quad).behind ['\\', 'u', a, b, c, d] id fun rest => ?_
        change stringBody? ('\\' :: 'u' :: a :: b :: c :: d :: rest) = _
        rw [stringBody?_code hquad, if_neg hlow, if_pos hhigh]
        exact (congrFun Option.map_id _).symm
      · refine ih.1.behind ['\\', 'u', a, b, c, d] (Char.ofNat quad :: ·) fun rest => ?_
        change stringBody? ('\\' :: 'u' :: a :: b :: c :: d :: rest) = _
        rw [stringBody?_code hquad, if_neg hlow, if_neg hhigh]
    · -- half of a character is completed by the code of a second half, and by no other
      by_cases hlow : 0xDC00 ≤ quad ∧ quad ≤ 0xDFFF
      · refine ih.1.behind ['\\', 'u', a, b, c, d] (ofHalves unit quad :: ·) fun rest => ?_
        change behindHalf? unit ('\\' :: 'u' :: a :: b :: c :: d :: rest) = _
        rw [behindHalf?, hquad]
        exact if_pos hlow
      · refine Or.inr fun rest => ?_
        change behindHalf? unit ('\\' :: 'u' :: a :: b :: c :: d :: (body ++ '"' :: rest)) = _
        rw [behindHalf?, hquad]
        exact if_neg hlow

/-! ### Numbers -/

theorem IsExponent.head (h : IsExponent text) : ∀ c ∈ text.head?, c = 'e' ∨ c = 'E' := by
  cases h with
  | absent => simp
  | present hmark _ _ =>
    rintro _ ⟨⟩
    exact hmark

theorem IsExponent.exists_exponent? (h : IsExponent text) :
    ∃ kept, exponent? text = some (kept, []) := by
  cases h with
  | absent => exact ⟨[], rfl⟩
  | @present mark sign digits hmark hsign hdigits =>
    -- the sign is taken off first, if there is one
    have hsplit : (exponentSign (sign ++ digits)).2 = digits := by
      simp only [List.mem_cons, List.not_mem_nil, or_false] at hsign
      rcases hsign with rfl | rfl | rfl
      · -- digits have no sign of their own
        obtain ⟨c, more, rfl⟩ := List.exists_cons_of_ne_nil hdigits.1
        have hc := hdigits.2 c List.mem_cons_self
        have hplus : c ≠ '+' := by
          rintro rfl
          exact absurd hc (by decide)
        have hminus : c ≠ '-' := by
          rintro rfl
          exact absurd hc (by decide)
        simp [exponentSign, hplus, hminus]
      · rfl
      · rfl
    have htaken : digits.takeWhile Char.isDigit = digits := List.takeWhile_eq_self_iff.mpr hdigits.2
    have hleft : digits.dropWhile Char.isDigit = [] := List.dropWhile_eq_nil_iff.mpr hdigits.2
    rw [exponent?_of_mark hmark, hsplit, htaken, hleft, if_neg (by simpa using hdigits.1)]
    exact ⟨_, rfl⟩

theorem IsPlaces.fraction? {places exponent : List Char} (h : IsPlaces places)
    (hexponent : IsExponent exponent) : fraction? (places ++ exponent) = some (places, exponent) := by
  have hhead := hexponent.head
  cases h with
  | absent =>
    refine fraction?_of_ne_point fun c hc => ?_
    rcases hhead c hc with rfl | rfl <;> decide
  | @present digits hdigits =>
    have hrest : ∀ c ∈ exponent.head?, c.isDigit = false := fun c hc => by
      rcases hhead c hc with rfl | rfl <;> rfl
    have hne : ¬digits.isEmpty = true := by simpa using hdigits.1
    simp only [Document.fraction?, List.cons_append, takeWhile_append_eq hdigits.2 hrest,
      dropWhile_append_eq hdigits.2 hrest, if_neg hne]

theorem IsPlaces.isDigit_head? {places exponent : List Char} (h : IsPlaces places)
    (hexponent : IsExponent exponent) : ∀ c ∈ (places ++ exponent).head?, c.isDigit = false := by
  cases h with
  | absent =>
    intro c hc
    rcases hexponent.head c hc with rfl | rfl <;> rfl
  | present _ =>
    rintro _ ⟨⟩
    rfl

/-- **A number is read to its end.** -/
theorem IsNumber.exists_number? (h : IsNumber text) : ∃ kept, number? text = some (kept, []) := by
  obtain @⟨sign, whole, places, exponent, hsign, hwhole, hplaces, hexponent⟩ := h
  obtain ⟨kept, hkept⟩ := hexponent.exists_exponent?
  have hunsigned : unsigned? sign (whole ++ (places ++ exponent)) =
      some (sign ++ whole ++ places ++ kept, []) :=
    unsigned?_eq_some.mpr ⟨whole, _, places, exponent, kept,
      whole?_digits hwhole.1.2 hwhole.1.1 hwhole.2 (hplaces.isDigit_head? hexponent),
      hplaces.fraction? hexponent, hkept, rfl⟩
  simp only [List.mem_cons, List.not_mem_nil, or_false] at hsign
  rcases hsign with rfl | rfl
  · refine ⟨_, (number?_of_ne_minus ?_).trans hunsigned⟩
    rintro _ hc rfl
    -- without a minus the number starts with a digit
    obtain ⟨c, more, rfl⟩ := List.exists_cons_of_ne_nil hwhole.1.1
    obtain rfl := Option.some.inj hc
    exact absurd (hwhole.1.2 '-' List.mem_cons_self) (by decide)
  · exact ⟨_, (number?_minus _).trans hunsigned⟩

/-! ### Readers of elements -/

/-- A reader refuses a text, whatever follows that does not go on with it. -/
def Refuses (read? : (text : List Char) → Option (Taken α text)) (text : List Char) : Prop :=
  ∀ rest, Ends rest → read? (text ++ rest) = none

/-- A reader reads a text back as some value, or refuses it. -/
def Settles (read? : (text : List Char) → Option (Taken α text)) (text : List Char) : Prop :=
  (∃ v, ReadsBack read? text v) ∨ Refuses read? text

/-- The elements of a text are read up to the closing bracket behind it, or they are not, whatever follows. -/
def ListSettles (close : Char) (read? : (text : List Char) → Option (Taken α text)) (text : List Char) :
    Prop :=
  (∃ items, ∀ rest, Yields (items? close read? (skipSpace (text ++ close :: rest))) items rest) ∨
    ∀ rest, items? close read? (skipSpace (text ++ close :: rest)) = none

variable {read? : (text : List Char) → Option (Taken α text)}

theorem items?_refuses_first (h : read? text = none) : items? close read? text = none := by
  rw [items?, h]

theorem items?_refuses_more {left : List Char} {item : α} (hitem : Yields (read? text) item left)
    (hleft : skipSpace left = ',' :: rest) (hmore : items? close read? (skipSpace rest) = none) :
    items? close read? text = none := by
  obtain ⟨t, ht, -, rfl⟩ := hitem
  rw [items?, ht]
  dsimp only
  split
  · next heq =>
    obtain ⟨-, rfl⟩ := List.cons.inj (hleft.symm.trans heq)
    rw [hmore]
  · next hcomma heq =>
    obtain ⟨rfl, rfl⟩ := List.cons.inj (hleft.symm.trans heq)
    exact absurd rfl hcomma
  · next heq => exact absurd (hleft.symm.trans heq) (by simp)

theorem bracketed?_refuses {c : Char} {more : List Char} (h : skipSpace text = c :: more) (hc : c ≠ close)
    (hitems : items? close read? (skipSpace text) = none) : bracketed? close read? text = none := by
  rw [bracketed?]
  split
  · next heq =>
    obtain ⟨rfl, rfl⟩ := List.cons.inj (h.symm.trans heq)
    rw [if_neg hc, hitems]
    rfl
  · rfl

/-- White space before an element is passed over. -/
theorem skipSpace_padded (hbefore : IsGap before) (hopens : ∃ c more, text = c :: more ∧ Opens c)
    (rest : List Char) : skipSpace (before ++ (text ++ rest)) = text ++ rest := by
  obtain ⟨c, more, rfl, hc⟩ := hopens
  rw [skipSpace_append hbefore]
  exact skipSpace_cons hc.1 _

theorem ListSettles.last (hclose : IsClose close) (hbefore : IsGap before)
    (hopens : ∃ c more, text = c :: more ∧ Opens c) (h : Settles read? text) (hafter : IsGap after) :
    ListSettles close read? (before ++ (text ++ after)) := by
  have hskip (rest : List Char) : skipSpace (before ++ (text ++ after) ++ close :: rest) =
      text ++ (after ++ close :: rest) := by
    simpa only [List.append_assoc] using skipSpace_padded hbefore hopens (after ++ close :: rest)
  rcases h with ⟨v, hread⟩ | hrefuses
  · -- the element is read up to the white space behind it, and there the list ends
    refine Or.inl ⟨[v], fun rest => ?_⟩
    rw [hskip]
    refine items?_last (hread.reads _ (hafter.ends hclose.ends rest)) hclose.ne_comma ?_
    rw [skipSpace_append hafter, skipSpace_cons hclose.isSpace]
  · refine Or.inr fun rest => ?_
    rw [hskip]
    exact items?_refuses_first (hrefuses _ (hafter.ends hclose.ends rest))

theorem ListSettles.more {others : List Char} (hbefore : IsGap before)
    (hopens : ∃ c more, text = c :: more ∧ Opens c) (h : Settles read? text) (hafter : IsGap after)
    (hmore : ListSettles close read? others) :
    ListSettles close read? (before ++ (text ++ (after ++ ',' :: others))) := by
  have hskip (rest : List Char) : skipSpace (before ++ (text ++ (after ++ ',' :: others)) ++ close :: rest) =
      text ++ (after ++ ',' :: (others ++ close :: rest)) := by
    have hpadded := skipSpace_padded hbefore hopens (after ++ ',' :: (others ++ close :: rest))
    simpa only [List.append_assoc, List.cons_append] using hpadded
  have hends (rest : List Char) : Ends (after ++ ',' :: rest) := hafter.ends (by simp [Ends]) rest
  have hcomma (rest : List Char) : skipSpace (after ++ ',' :: rest) = ',' :: rest := by
    rw [skipSpace_append hafter, skipSpace_cons rfl]
  -- the list is read if both the element and the others are; what is refused of them refuses it
  rcases h with ⟨v, hread⟩ | hrefuses
  · rcases hmore with ⟨items, hitems⟩ | hnone
    · refine Or.inl ⟨v :: items, fun rest => ?_⟩
      rw [hskip]
      exact items?_more (hread.reads _ (hends _)) (hcomma _) (hitems rest)
    · refine Or.inr fun rest => ?_
      rw [hskip]
      exact items?_refuses_more (hread.reads _ (hends _)) (hcomma _) (hnone rest)
  · refine Or.inr fun rest => ?_
    rw [hskip]
    exact items?_refuses_first (hrefuses _ (hends _))

/-! ### Parts of documents -/

theorem IsWritten.opens {e : Element} (h : IsWritten letters (.one e) text) :
    ∃ c more, text = c :: more ∧ Opens c := by
  cases h with
  | word h => rcases mem_words_iff.mp h with rfl | rfl | rfl <;> exact ⟨_, _, rfl, by decide⟩
  | number h =>
    obtain ⟨kept, hkept⟩ := h.exists_number?
    exact (readsBack_kept 0 hkept).opens
  | _ => exact ⟨_, _, rfl, by decide⟩

/-- A list of elements starts with what its first element starts with, white space aside. -/
theorem IsWritten.skipSpace_eq {e : Element} (h : IsWritten letters (.several e) text) (rest : List Char) :
    ∃ c more, skipSpace (text ++ rest) = c :: more ∧ Opens c := by
  cases h with
  | last hbefore h _ =>
    obtain ⟨c, more, hc⟩ := h.opens
    rw [List.append_assoc, List.append_assoc, skipSpace_padded hbefore ⟨c, more, hc⟩, hc.1]
    exact ⟨c, _, rfl, hc.2⟩
  | more hbefore h _ _ =>
    obtain ⟨c, more, hc⟩ := h.opens
    rw [List.append_assoc, List.append_assoc, skipSpace_padded hbefore ⟨c, more, hc⟩, hc.1]
    exact ⟨c, _, rfl, hc.2⟩

/-- The part is read by itself, with that many arrays and objects inside each other allowed. -/
def Part.Settles (depth : Nat) (text : List Char) : Part → Prop
  | .one .value => Document.Settles (value? depth) text
  | .one .member => Document.Settles (member? (value? depth)) text
  | .several .value => ListSettles ']' (value? depth) text
  | .several .member => ListSettles '\x7d' (member? (value? depth)) text

/-! ### Values and members -/

theorem settles_word (h : text ∈ words) (depth : Nat) : Settles (value? depth) text := by
  rcases mem_words_iff.mp h with rfl | rfl | rfl
  · exact Or.inl ⟨_, readsBack_word "ull".toList (by decide) (by decide) (by decide) (fun _ => rfl) _⟩
  · exact Or.inl ⟨_, readsBack_word "rue".toList (by decide) (by decide) (by decide) (fun _ => rfl) _⟩
  · exact Or.inl ⟨_, readsBack_word "alse".toList (by decide) (by decide) (by decide) (fun _ => rfl) _⟩

theorem settles_string (depth : Nat) (h : IsBody escapes body) :
    Settles (value? depth) ('"' :: (body ++ ['"'])) := by
  rcases h.settles.1 with ⟨s, hs⟩ | hnone
  · exact Or.inl ⟨_, readsBack_body depth hs⟩
  · refine Or.inr fun rest _ => ?_
    have htext : '"' :: (body ++ ['"']) ++ rest = '"' :: (body ++ '"' :: rest) := by simp
    rw [htext, value?_eq_scalar? (by decide) (by decide), scalar?, hnone]
    rfl

theorem settles_member (hbody : IsBody escapes body) (hbefore : IsGap before) (hafter : IsGap after)
    (hopens : ∃ c more, text = c :: more ∧ Opens c) (h : Settles (value? depth) text) :
    Settles (member? (value? depth)) ('"' :: (body ++ '"' :: (before ++ ':' :: (after ++ text)))) := by
  -- the parts in the order in which the reader takes them
  have htext (rest : List Char) : '"' :: (body ++ '"' :: (before ++ ':' :: (after ++ text))) ++ rest =
      '"' :: (body ++ '"' :: (before ++ ':' :: (after ++ (text ++ rest)))) := by simp
  rcases hbody.settles.1 with ⟨name, hname⟩ | hnone
  · rcases h with ⟨d, hread⟩ | hrefuses
    · exact Or.inl ⟨_, hread.member_of_body hbefore hafter hname⟩
    · refine Or.inr fun rest hrest => ?_
      have hcolon : after? [':'] (':' :: (after ++ (text ++ rest))) = some (after ++ (text ++ rest)) := rfl
      have hskip : skipSpace (after ++ (text ++ rest)) = text ++ rest := skipSpace_padded hafter hopens rest
      rw [htext, member?, hname]
      simp only [Option.bind_eq_bind, Option.bind_some]
      rw [skipSpace_append hbefore, skipSpace_cons rfl, hcolon, Option.bind_some, hskip, hrefuses rest hrest]
      rfl
  · refine Or.inr fun rest _ => ?_
    rw [htext, member?, hnone]
    rfl

/-- Where no array or object may begin, none is read. -/
theorem scalar?_bracket {c : Char} (hc : c = '[' ∨ c = '\x7b') (rest : List Char) :
    scalar? (c :: rest) = none := by
  rcases hc with rfl | rfl <;> rfl

theorem settles_bracketed {build : List α → Document} {c : Char} (hclose : IsClose close)
    (hc : Opens c)
    (hvalue : ∀ rest, value? (depth + 1) (c :: rest) =
      (bracketed? close read? rest).map fun t =>
        ((t.map build).widen (Nat.le_succ rest.length) : Taken Document (c :: rest)))
    (h : ListSettles close read? text)
    (hopens : ∀ rest, ∃ c more, skipSpace (text ++ rest) = c :: more ∧ Opens c) :
    Settles (value? (depth + 1)) (c :: (text ++ [close])) := by
  have htext (rest : List Char) : c :: (text ++ [close]) ++ rest = c :: (text ++ close :: rest) := by simp
  -- the list is not empty: what comes first opens an element and does not close the list
  have hfirst (rest : List Char) : ∃ d more, skipSpace (text ++ close :: rest) = d :: more ∧ d ≠ close := by
    obtain ⟨d, more, hskip, hd⟩ := hopens (close :: rest)
    exact ⟨d, more, hskip, fun heq => hclose.not_opens (heq ▸ hd)⟩
  rcases h with ⟨items, hitems⟩ | hnone
  · refine Or.inl ⟨build items, ⟨c, _, rfl, hc⟩, fun rest _ => ?_⟩
    obtain ⟨d, more, hskip, hd⟩ := hfirst rest
    obtain ⟨t, ht, rfl, hrest⟩ := bracketed?_items hskip hd (hitems rest)
    rw [htext, hvalue, ht]
    exact ⟨_, rfl, rfl, hrest⟩
  · refine Or.inr fun rest _ => ?_
    obtain ⟨d, more, hskip, hd⟩ := hfirst rest
    rw [htext, hvalue, bracketed?_refuses hskip hd (hnone rest)]
    rfl

theorem settles_empty {build : List α → Document} {c : Char} (hclose : IsClose close) (hc : Opens c)
    (hvalue : ∀ rest, value? (depth + 1) (c :: rest) =
      (bracketed? close read? rest).map fun t =>
        ((t.map build).widen (Nat.le_succ rest.length) : Taken Document (c :: rest)))
    (hgap : IsGap gap) : Settles (value? (depth + 1)) (c :: (gap ++ [close])) := by
  refine Or.inl ⟨build [], ⟨c, _, rfl, hc⟩, fun rest _ => ?_⟩
  have htext : c :: (gap ++ [close]) ++ rest = c :: (gap ++ close :: rest) := by simp
  have hskip : skipSpace (gap ++ close :: rest) = close :: rest := by
    rw [skipSpace_append hgap, skipSpace_cons hclose.isSpace]
  obtain ⟨t, ht, hitems, hrest⟩ := @bracketed?_close _ _ _ _ read? hskip
  rw [htext, hvalue, ht]
  exact ⟨_, rfl, congrArg build hitems, hrest⟩

/-- **A JSON text is read by itself.** -/
theorem IsWritten.settles {part : Part} (h : IsWritten escapes part text) (depth : Nat) :
    part.Settles depth text := by
  -- the depth goes down by one between brackets, and where none is left brackets are refused
  induction h generalizing depth with
  | word h => exact settles_word h depth
  | number h =>
    obtain ⟨kept, hkept⟩ := h.exists_number?
    exact Or.inl ⟨_, readsBack_kept depth hkept⟩
  | string h => exact settles_string depth h
  | emptyArray hgap =>
    cases depth with
    | zero => exact Or.inr fun rest _ => scalar?_bracket (Or.inl rfl) _
    | succ depth => exact settles_empty isClose_bracket (by decide) (fun _ => rfl) hgap
  | array h ih =>
    cases depth with
    | zero => exact Or.inr fun rest _ => scalar?_bracket (Or.inl rfl) _
    | succ depth =>
      exact settles_bracketed isClose_bracket (by decide) (fun _ => rfl) (ih depth) h.skipSpace_eq
  | emptyObject hgap =>
    cases depth with
    | zero => exact Or.inr fun rest _ => scalar?_bracket (Or.inr rfl) _
    | succ depth => exact settles_empty isClose_brace (by decide) (fun _ => rfl) hgap
  | object h ih =>
    cases depth with
    | zero => exact Or.inr fun rest _ => scalar?_bracket (Or.inr rfl) _
    | succ depth =>
      exact settles_bracketed isClose_brace (by decide) (fun _ => rfl) (ih depth) h.skipSpace_eq
  | member hbody hbefore hafter h ih => exact settles_member hbody hbefore hafter h.opens (ih depth)
  | @last e _ _ _ hbefore h hafter ih =>
    cases e with
    | value => exact .last isClose_bracket hbefore h.opens (ih depth) hafter
    | member => exact .last isClose_brace hbefore h.opens (ih depth) hafter
  | @more e _ _ _ _ hbefore h hafter _ ih ihmore =>
    cases e with
    | value => exact .more hbefore h.opens (ih depth) hafter (ihmore depth)
    | member => exact .more hbefore h.opens (ih depth) hafter (ihmore depth)

/-! ### Whole texts -/

/-- **White space around an array does not matter.** -/
theorem ofChars?_padded {inner : List Char} (hbefore : IsGap before)
    (h : IsWritten escapes (.one .value) ('[' :: inner)) (hafter : IsGap after) :
    ofChars? (before ++ ('[' :: inner ++ after)) = ofChars? ('[' :: inner) := by
  have hskip : skipSpace (before ++ ('[' :: inner ++ after)) = '[' :: inner ++ after :=
    skipSpace_padded hbefore h.opens after
  have hends : Ends after := by
    have hends := hafter.ends_append ends_nil
    rwa [List.append_nil] at hends
  -- either way the white space makes no difference
  rcases h.settles maxDepth with ⟨d, hread⟩ | hrefuses
  · rw [ofChars?_eq_some hread]
    refine ofChars?_of_yields ?_ (List.dropWhile_eq_nil_iff.mpr hafter)
    rw [hskip]
    exact hread.reads after hends
  · have hpadded : value? maxDepth (skipSpace (before ++ ('[' :: inner ++ after))) = none := by
      rw [hskip]
      exact hrefuses after hends
    have halone : value? maxDepth (skipSpace ('[' :: inner)) = none := by
      have hnone := hrefuses [] ends_nil
      rw [List.append_nil] at hnone
      rwa [skipSpace_cons rfl]
    rw [ofChars?_eq_none hpadded, ofChars?_eq_none halone]

end Formulary.Document
