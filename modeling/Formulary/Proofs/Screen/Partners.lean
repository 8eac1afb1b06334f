import Formulary.Proofs.Screen.Parentheses

/-!
# The parenthesis that the check reports

A closing parenthesis has the nearest open one before it for its **partner**, if there is one; quoted text does
not count. If the check of parentheses reports a position, a parenthesis stands there, but it may have a partner.
The check keeps a counter and the position of the parenthesis that was opened last, not the positions of all open
ones, so that it reports an opening parenthesis even if that one has been closed. This is the only way in which
it can go wrong (`Screen.hasPartner_reported_iff`): a closing parenthesis that is reported has no partner, and an
opening one has a partner exactly if some parenthesis is closed behind it.

The proof leaves the text behind at once: what the check reports is read off the list of the parentheses
(`reported?`), and that list is cut at the parenthesis reported (`reported?_cases`).
-/

namespace Formulary.Screen

/-- A parenthesis of a text. -/
structure Parenthesis where
  /-- The number of bytes before it. -/
  position : Nat
  /-- Whether it is an opening one. -/
  isOpening : Bool
deriving DecidableEq

/-- What ends the quoted text that goes on behind a character, if one does; `quote` says so of what is before
the character. A quote that is written twice ends one quoted text and begins the next. -/
def quoteBehind (quote : Option Char) (c : Char) : Option Char :=
  match quote with
  | some q => if c = q then none else some q
  | none => if c = '"' ∨ c = '\'' then some c else none

/-- The parenthesis that a character at a position is, if it is one and not within a quoted text. -/
def parenthesisAt? (position : Nat) (quote : Option Char) (c : Char) : Option Parenthesis :=
  if quote.isSome then none
  else if c = '(' then some ⟨position, true⟩
  else if c = ')' then some ⟨position, false⟩
  else none

/-- The parentheses outside of quotes of a text that begins at a position, within a quoted text if `quote` is
what ends that. -/
def parenthesesFrom (position : Nat) (quote : Option Char) : List Char → List Parenthesis
  | [] => []
  | c :: rest =>
    (parenthesisAt? position quote c).toList ++
      parenthesesFrom (position + c.utf8Size) (quoteBehind quote c) rest

/-- The parentheses of a text outside of quotes. -/
def parentheses (text : List Char) : List Parenthesis := parenthesesFrom 0 none text

/-- The positions of partners behind open parentheses, the nearest first. -/
def partnersBehind (opened : List Nat) : List Parenthesis → List (Nat × Nat)
  | [] => []
  | ⟨position, true⟩ :: rest => partnersBehind (position :: opened) rest
  | ⟨position, false⟩ :: rest =>
    match opened with
    | [] => partnersBehind [] rest
    | nearest :: others => (nearest, position) :: partnersBehind others rest

/-- The parenthesis at a position of a text has a partner. -/
def HasPartner (text : List Char) (position : Nat) : Prop :=
  ∃ pair ∈ partnersBehind [] (parentheses text), pair.1 = position ∨ pair.2 = position

instance (text : List Char) (position : Nat) : Decidable (HasPartner text position) :=
  inferInstanceAs (Decidable (∃ pair ∈ _, _))

section Steps

variable {c : Char} (position : Nat) (rest : List Char)

theorem parenthesesFrom_within (q : Char) : parenthesesFrom position (some q) (c :: rest) =
    parenthesesFrom (position + c.utf8Size) (if c = q then none else some q) rest := rfl

theorem parenthesesFrom_quote (hc : c = '"' ∨ c = '\'') : parenthesesFrom position none (c :: rest) =
    parenthesesFrom (position + c.utf8Size) (some c) rest := by
  rcases hc with rfl | rfl <;> rfl

theorem parenthesesFrom_open : parenthesesFrom position none ('(' :: rest) =
    ⟨position, true⟩ :: parenthesesFrom (position + '('.utf8Size) none rest := rfl

theorem parenthesesFrom_close : parenthesesFrom position none (')' :: rest) =
    ⟨position, false⟩ :: parenthesesFrom (position + ')'.utf8Size) none rest := rfl

theorem parenthesesFrom_other (hquote : ¬(c = '"' ∨ c = '\'')) (hopen : c ≠ '(') (hclose : c ≠ ')') :
    parenthesesFrom position none (c :: rest) = parenthesesFrom (position + c.utf8Size) none rest := by
  simp only [parenthesesFrom, parenthesisAt?, quoteBehind, Option.isSome_none, Bool.false_eq_true, if_false,
    if_neg hopen, if_neg hclose, if_neg hquote, Option.toList_none, List.nil_append]

end Steps

/-! ### Where parentheses stand -/

theorem parenthesisAt?_eq_some {position : Nat} {quote : Option Char} {c : Char} {p : Parenthesis}
    (h : parenthesisAt? position quote c = some p) :
    p.position = position ∧ c = if p.isOpening then '(' else ')' := by
  unfold parenthesisAt? at h
  split at h
  · contradiction
  · split at h
    · next hc =>
      obtain rfl := Option.some.inj h
      exact ⟨rfl, hc⟩
    · split at h
      · next hc =>
        obtain rfl := Option.some.inj h
        exact ⟨rfl, hc⟩
      · contradiction

/-- A parenthesis of a text stands behind as many bytes as its position says. -/
theorem exists_of_mem_parenthesesFrom {position : Nat} {quote : Option Char} {text : List Char}
    {p : Parenthesis} (h : p ∈ parenthesesFrom position quote text) :
    ∃ before after, text = before ++ (if p.isOpening then '(' else ')') :: after ∧
      p.position = position + Text.byteLength before := by
  induction text generalizing position quote with
  | nil => contradiction
  | cons c rest ih =>
    rcases List.mem_append.mp h with hhere | hlater
    · obtain ⟨hposition, hc⟩ := parenthesisAt?_eq_some (Option.mem_toList.mp hhere)
      exact ⟨[], rest, by rw [← hc]; rfl, hposition⟩
    · obtain ⟨before, after, rfl, hposition⟩ := ih hlater
      exact ⟨c :: before, after, rfl, by rw [hposition, Text.byteLength_cons, Nat.add_assoc]⟩

/-- The parentheses are listed from left to right. -/
theorem pairwise_parenthesesFrom (position : Nat) (quote : Option Char) (text : List Char) :
    (parenthesesFrom position quote text).Pairwise (·.position < ·.position) := by
  induction text generalizing position quote with
  | nil => exact List.Pairwise.nil
  | cons c rest ih =>
    refine List.pairwise_append.mpr ⟨?_, ih _ _, ?_⟩
    · cases parenthesisAt? position quote c <;> simp
    · intro p hp p' hp'
      obtain ⟨hposition, -⟩ := parenthesisAt?_eq_some (Option.mem_toList.mp hp)
      -- what is found later stands behind this character at least
      obtain ⟨before, -, -, hposition'⟩ := exists_of_mem_parenthesesFrom hp'
      have := c.utf8Size_pos
      omega

/-! ### Partners -/

/-- The positions of the parentheses that are open behind a list of parentheses, the nearest first. -/
def openedBehind (opened : List Nat) : List Parenthesis → List Nat
  | [] => opened
  | ⟨position, true⟩ :: rest => openedBehind (position :: opened) rest
  | ⟨_, false⟩ :: rest => openedBehind opened.tail rest

theorem partnersBehind_append (opened : List Nat) (front back : List Parenthesis) :
    partnersBehind opened (front ++ back) =
      partnersBehind opened front ++ partnersBehind (openedBehind opened front) back := by
  induction front generalizing opened with
  | nil => rfl
  | cons p front ih =>
    obtain ⟨position, isOpening⟩ := p
    cases isOpening with
    | true => exact ih _
    | false =>
      cases opened with
      | nil => exact ih _
      | cons nearest others => exact congrArg _ (ih others)

/-- Of two partners the first was open before or is opened in the list, and the second stands there. -/
theorem mem_of_mem_partnersBehind {opened : List Nat} {ps : List Parenthesis} {pair : Nat × Nat}
    (h : pair ∈ partnersBehind opened ps) :
    (pair.1 ∈ opened ∨ ⟨pair.1, true⟩ ∈ ps) ∧ ⟨pair.2, false⟩ ∈ ps := by
  fun_induction partnersBehind opened ps with
  | case1 => contradiction
  | case2 opened position rest ih =>
    obtain ⟨hfirst, hsecond⟩ := ih h
    refine ⟨?_, List.mem_cons_of_mem _ hsecond⟩
    rcases hfirst with hopened | hrest
    · rcases List.mem_cons.mp hopened with heq | hopened
      · exact Or.inr (by rw [heq]; exact List.mem_cons_self)
      · exact Or.inl hopened
    · exact Or.inr (List.mem_cons_of_mem _ hrest)
  | case3 position rest ih =>
    obtain ⟨hfirst, hsecond⟩ := ih h
    exact ⟨hfirst.imp_right (List.mem_cons_of_mem _), List.mem_cons_of_mem _ hsecond⟩
  -- a pair is this parenthesis with the nearest open one, or one that is found later
  | case4 position rest nearest others ih =>
    rcases List.mem_cons.mp h with rfl | h
    · exact ⟨Or.inl List.mem_cons_self, List.mem_cons_self⟩
    · obtain ⟨hfirst, hsecond⟩ := ih h
      exact ⟨hfirst.imp (List.mem_cons_of_mem _) (List.mem_cons_of_mem _),
        List.mem_cons_of_mem _ hsecond⟩

/-! ### What the check reports -/

/-- The position that the check reports for a list of parentheses, behind `depth` open ones of which the last
was opened at `lastOpen`. -/
def reported? (depth lastOpen : Nat) : List Parenthesis → Option Nat
  | [] => if depth = 0 then none else some lastOpen
  | ⟨position, true⟩ :: rest => reported? (depth + 1) position rest
  | ⟨position, false⟩ :: rest =>
    if depth = 0 then some position else reported? (depth - 1) lastOpen rest

/-- The parentheses behind a quoted text are those behind the quote that ends it. -/
theorem parenthesesFrom_quoted {q : Char} (hq : q = '"' ∨ q = '\'') {input written : List Char}
    {t : Taken (List Char) input} (h : Text.afterQuote? q input = some t)
    (hwritten : written ++ t.rest = input) (position : Nat) :
    parenthesesFrom position (some q) input =
      parenthesesFrom (position + Text.byteLength written) none t.rest := by
  fun_induction Text.afterQuote? q input generalizing written position with
  | case1 => contradiction
  | case2 =>
    obtain rfl := Option.some.inj h
    rw [parenthesesFrom_within, if_pos rfl]
    rfl
  | case3 => contradiction
  | case4 rest ih =>
    -- the first of two quotes ends the quoted text, the second begins one
    obtain ⟨t, ht, rfl⟩ := Option.map_eq_some_iff.mp h
    obtain ⟨written', hrest⟩ := Text.rest_suffix_of_afterQuote? ht
    obtain rfl : written = q :: q :: written' :=
      List.append_cancel_right (hwritten.trans (congrArg (q :: q :: ·) hrest.symm))
    rw [parenthesesFrom_within, if_pos rfl, parenthesesFrom_quote _ _ hq, ih ht hrest]
    simp only [Text.byteLength_cons, Nat.add_assoc]
    rfl
  | case5 d rest =>
    obtain rfl := Option.some.inj h
    obtain rfl : written = [q] := List.append_cancel_right hwritten
    rw [parenthesesFrom_within, if_pos rfl]
    rfl
  | case6 c d rest hc ih =>
    obtain ⟨t, ht, rfl⟩ := Option.map_eq_some_iff.mp h
    obtain ⟨written', hrest⟩ := Text.rest_suffix_of_afterQuote? ht
    obtain rfl : written = c :: written' :=
      List.append_cancel_right (hwritten.trans (congrArg (c :: ·) hrest.symm))
    rw [parenthesesFrom_within, if_neg hc, ih ht hrest, Text.byteLength_cons, Nat.add_assoc]
    rfl

/-- The check reports what is read off the list of the parentheses. -/
theorem reported?_eq_some {position depth lastOpen p : Nat} {text : List Char}
    (h : checkParenthesesFrom position depth lastOpen text = .error (.unbalancedParentheses p)) :
    reported? depth lastOpen (parenthesesFrom position none text) = some p := by
  fun_induction checkParenthesesFrom position depth lastOpen text with
  | case1 => contradiction
  | case2 position depth lastOpen hdepth =>
    obtain rfl : lastOpen = p := by simpa using h
    exact if_neg hdepth
  | case3 => exact absurd h (by simp)
  | case4 position depth lastOpen c rest next hquote t ht ih =>
    -- the check goes over a quoted text at once, the list over one character at a time
    obtain ⟨written, hwritten⟩ := Text.rest_suffix_of_afterQuote? ht
    have hconsumed : t.consumed = written := Taken.consumed_eq hwritten.symm
    rw [parenthesesFrom_quote _ _ hquote, parenthesesFrom_quoted hquote ht hwritten, ← hconsumed]
    exact ih h
  | case5 position depth lastOpen rest next _ ih =>
    rw [parenthesesFrom_open, reported?]
    exact ih h
  | case6 position lastOpen rest =>
    obtain rfl : position = p := by simpa using h
    rw [parenthesesFrom_close, reported?, if_pos rfl]
  | case7 position depth lastOpen rest hdepth next _ _ ih =>
    rw [parenthesesFrom_close, reported?, if_neg hdepth]
    exact ih h
  | case8 position depth lastOpen c rest next hquote hopen hclose ih =>
    rw [parenthesesFrom_other _ _ hquote hopen hclose]
    exact ih h

/-- **Where the check stops.** The parenthesis that is reported is a closing one with none open before it, or
the last opening one; or none is opened any more, and the position is that of one that was open before. -/
theorem reported?_cases {opened : List Nat} {lastOpen p : Nat} {ps : List Parenthesis}
    (h : reported? opened.length lastOpen ps = some p) :
    (∃ front back, ps = front ++ ⟨p, false⟩ :: back ∧ openedBehind opened front = []) ∨
      (∃ front back, ps = front ++ ⟨p, true⟩ :: back ∧ ∀ c ∈ back, c.isOpening = false) ∨
        opened ≠ [] ∧ p = lastOpen ∧ ∀ c ∈ ps, c.isOpening = false := by
  induction ps generalizing opened lastOpen with
  | nil =>
    -- at the end, with some open, it is the last that was opened
    rw [reported?] at h
    split at h
    · contradiction
    · next hdepth =>
      exact Or.inr (Or.inr ⟨fun hnil => hdepth (by rw [hnil]; rfl), (Option.some.inj h).symm,
        List.forall_mem_nil _⟩)
  | cons q ps ih =>
    obtain ⟨position, isOpening⟩ := q
    cases isOpening with
    | true =>
      -- from here on this is the last that was opened
      have hrest : reported? (position :: opened).length position ps = some p := h
      rcases ih hrest with ⟨front, back, rfl, hopened⟩ | ⟨front, back, rfl, hback⟩ | ⟨-, rfl, hclosed⟩
      · exact Or.inl ⟨⟨position, true⟩ :: front, back, rfl, hopened⟩
      · exact Or.inr (Or.inl ⟨⟨position, true⟩ :: front, back, rfl, hback⟩)
      · exact Or.inr (Or.inl ⟨[], ps, rfl, hclosed⟩)
    | false =>
      cases opened with
      | nil =>
        obtain rfl : position = p := Option.some.inj h
        exact Or.inl ⟨[], ps, rfl, rfl⟩
      | cons nearest others =>
        -- it closes the nearest one, but the last that was opened is still remembered
        have hrest : reported? others.length lastOpen ps = some p := h
        rcases ih hrest with ⟨front, back, rfl, hopened⟩ | ⟨front, back, rfl, hback⟩ | ⟨-, rfl, hclosed⟩
        · exact Or.inl ⟨⟨position, false⟩ :: front, back, rfl, hopened⟩
        · exact Or.inr (Or.inl ⟨⟨position, false⟩ :: front, back, rfl, hback⟩)
        · exact Or.inr (Or.inr ⟨List.cons_ne_nil _ _, rfl, List.forall_mem_cons.mpr ⟨rfl, hclosed⟩⟩)

/-! ### Whether the parenthesis reported has a partner -/

section Cut

variable {text : List Char} {front back : List Parenthesis} {p : Nat} {isOpening : Bool}
  (h : parentheses text = front ++ ⟨p, isOpening⟩ :: back)
include h

/-- The parentheses of a text in front of one have smaller positions, those behind it greater ones. -/
theorem positions_of_cut : (∀ q ∈ front, q.position < p) ∧ ∀ q ∈ back, p < q.position := by
  have hpairwise := pairwise_parenthesesFrom 0 none text
  rw [show parenthesesFrom 0 none text = _ from h, List.pairwise_append, List.pairwise_cons] at hpairwise
  obtain ⟨-, ⟨hback, -⟩, hfront⟩ := hpairwise
  exact ⟨fun q hq => hfront q hq _ List.mem_cons_self, hback⟩

theorem mem_iff_of_cut : ⟨p, true⟩ ∈ parentheses text ↔ isOpening = true := by
  obtain ⟨hfront, hback⟩ := positions_of_cut h
  rw [h, List.mem_append, List.mem_cons]
  constructor
  · rintro (hmem | heq | hmem)
    · exact absurd (hfront _ hmem) (Nat.lt_irrefl p)
    · exact (Parenthesis.mk.inj heq).2.symm
    · exact absurd (hback _ hmem) (Nat.lt_irrefl p)
  · rintro rfl
    exact Or.inr (Or.inl rfl)

/-- A partner of the parenthesis is found from there on. -/
theorem hasPartner_iff_of_cut : HasPartner text p ↔
    ∃ pair ∈ partnersBehind (openedBehind [] front) (⟨p, isOpening⟩ :: back), pair.1 = p ∨ pair.2 = p := by
  obtain ⟨hfront, -⟩ := positions_of_cut h
  rw [HasPartner, h, partnersBehind_append]
  constructor
  · rintro ⟨pair, hpair, hp⟩
    refine ⟨pair, (List.mem_append.mp hpair).resolve_left fun hmem => ?_, hp⟩
    -- partners in front have smaller positions
    obtain ⟨hfirst, hsecond⟩ := mem_of_mem_partnersBehind hmem
    have hfirst' := hfront _ (hfirst.resolve_left List.not_mem_nil)
    have hsecond' := hfront _ hsecond
    simp only at hfirst' hsecond'
    omega
  · rintro ⟨pair, hpair, hp⟩
    exact ⟨pair, List.mem_append.mpr (Or.inr hpair), hp⟩

end Cut

/-- A closing parenthesis with none open before it has no partner. -/
theorem not_hasPartner_of_closing {text : List Char} {front back : List Parenthesis} {p : Nat}
    (h : parentheses text = front ++ ⟨p, false⟩ :: back) (hopened : openedBehind [] front = []) :
    ¬HasPartner text p := by
  obtain ⟨-, hback⟩ := positions_of_cut h
  rw [hasPartner_iff_of_cut h, hopened]
  rintro ⟨pair, hpair, hp⟩
  change pair ∈ partnersBehind [] back at hpair
  obtain ⟨hfirst, hsecond⟩ := mem_of_mem_partnersBehind hpair
  have hfirst' := hback _ (hfirst.resolve_left List.not_mem_nil)
  have hsecond' := hback _ hsecond
  simp only at hfirst' hsecond'
  omega

/-- The opening parenthesis behind which none is opened has a partner if any is closed there. -/
theorem hasPartner_iff_of_last {text : List Char} {front back : List Parenthesis} {p : Nat}
    (h : parentheses text = front ++ ⟨p, true⟩ :: back) (hback : ∀ c ∈ back, c.isOpening = false) :
    HasPartner text p ↔ back ≠ [] := by
  obtain ⟨-, hlater⟩ := positions_of_cut h
  rw [hasPartner_iff_of_cut h]
  cases back with
  | nil => simp [partnersBehind]
  | cons c back =>
    obtain ⟨position, isOpening⟩ := c
    obtain rfl : isOpening = false := hback _ List.mem_cons_self
    exact iff_of_true ⟨(p, position), List.mem_cons_self, Or.inl rfl⟩ (List.cons_ne_nil _ _)

/-- **Which parenthesis is reported.** Where the check finds parentheses unbalanced it reports the position of a
parenthesis outside of quotes. That one has a partner exactly if it is an opening one and some parenthesis is
closed behind it. -/
theorem hasPartner_reported_iff {text : List Char} {position : Nat}
    (h : checkParentheses text = .error (.unbalancedParentheses position)) :
    (∃ isOpening before after, ⟨position, isOpening⟩ ∈ parentheses text ∧
      text = before ++ (if isOpening then '(' else ')') :: after ∧ position = Text.byteLength before) ∧
    (HasPartner text position ↔ ⟨position, true⟩ ∈ parentheses text ∧
      ∃ closing, ⟨closing, false⟩ ∈ parentheses text ∧ position < closing) := by
  have hreported : reported? ([] : List Nat).length 0 (parentheses text) = some position :=
    reported?_eq_some h
  have hplace {isOpening : Bool} (hmem : ⟨position, isOpening⟩ ∈ parentheses text) :
      ∃ isOpening before after, ⟨position, isOpening⟩ ∈ parentheses text ∧
        text = before ++ (if isOpening then '(' else ')') :: after ∧ position = Text.byteLength before := by
    obtain ⟨before, after, htext, hposition⟩ := exists_of_mem_parenthesesFrom hmem
    exact ⟨isOpening, before, after, hmem, htext, by simpa using hposition⟩
  rcases reported?_cases hreported with ⟨front, back, hcut, hopened⟩ | ⟨front, back, hcut, hback⟩ | ⟨hne, -⟩
  · have hmem : ⟨position, false⟩ ∈ parentheses text := by simp [hcut]
    refine ⟨hplace hmem, iff_of_false (not_hasPartner_of_closing hcut hopened) ?_⟩
    rintro ⟨hopening, -⟩
    exact absurd ((mem_iff_of_cut hcut).mp hopening) Bool.false_ne_true
  · have hmem : ⟨position, true⟩ ∈ parentheses text := by simp [hcut]
    refine ⟨hplace hmem, ?_⟩
    obtain ⟨hbefore, hbehind⟩ := positions_of_cut hcut
    rw [hasPartner_iff_of_last hcut hback, List.ne_nil_iff_exists_cons]
    constructor
    · rintro ⟨⟨closing, isOpening⟩, rest, rfl⟩
      obtain rfl : isOpening = false := hback _ List.mem_cons_self
      exact ⟨hmem, closing, by simp [hcut], hbehind _ List.mem_cons_self⟩
    · rintro ⟨-, closing, hclosing, hlt⟩
      -- what is closed behind the position stands behind the cut
      rw [hcut, List.mem_append, List.mem_cons] at hclosing
      rcases hclosing with hmem | heq | hmem
      · exact absurd (hbefore _ hmem) (Nat.lt_asymm hlt)
      · exact absurd (Parenthesis.mk.inj heq).2 Bool.false_ne_true
      · exact List.exists_cons_of_ne_nil (List.ne_nil_of_mem hmem)
  · exact absurd rfl hne

/-- The parenthesis that is closed too often is reported behind a quoted one and a character of two bytes. -/
theorem hasPartner_reported_iff_quoted :
    checkParentheses "(é, ')'))".toList = .error (.unbalancedParentheses 9) ∧
    ¬HasPartner "(é, ')'))".toList 9 := by
  have hcheck : checkParentheses "(é, ')'))".toList = .error (.unbalancedParentheses 9) := by
    decide +kernel
  refine ⟨hcheck, fun hpartner => ?_⟩
  obtain ⟨hopening, -⟩ := (hasPartner_reported_iff hcheck).2.mp hpartner
  exact absurd hopening (by decide)

/-- Of two opening parentheses the one that is closed is reported. -/
theorem hasPartner_reported_twice :
    checkParentheses "((a)".toList = .error (.unbalancedParentheses 1) ∧
    HasPartner "((a)".toList 1 ∧ ¬HasPartner "((a)".toList 0 := by
  have hcheck : checkParentheses "((a)".toList = .error (.unbalancedParentheses 1) := by
    decide +kernel
  exact ⟨hcheck, by decide, by decide⟩

end Formulary.Screen
