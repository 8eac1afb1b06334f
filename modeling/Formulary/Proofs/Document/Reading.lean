import Formulary.Document.Printer
import Formulary.Proofs.Document.Numbers

/-!
# What a reader of documents makes of what was written

A reader reads a text back as a value if it yields that value whatever follows the text
(`ReadsBack`). Strings are read back with all their characters (`stringBody?_quoted`), and arrays and objects
are read back if their items and members are (`ReadsBack.array`, `ReadsBack.object`), with any white
space around these.
-/

namespace Formulary.Document

variable {α : Type} {text rest gap tail written : List Char} {close : Char}

/-! ### Strings -/

theorem unescapeLetter?_of_escapeLetter? {c letter : Char} (h : escapeLetter? c = some letter) :
    letter ≠ 'u' ∧ unescapeLetter? letter = some c := by
  rw [escapeLetter?.eq_def] at h
  split at h <;> cases h <;> exact ⟨by decide, rfl⟩

/-- A control character is its code in four digits. -/
theorem hexQuad?_control : ∀ n < 0x20,
    hexQuad? '0' '0' (Nat.digitChar (n / 16)) (Nat.digitChar (n % 16)) = some n := by
  decide

theorem stringBody?_escapeChar (c : Char) (more : List Char) :
    stringBody? (escapeChar c ++ more) = (stringBody? more).map fun read => (c :: read.1, read.2) := by
  rw [escapeChar]
  cases hletter : escapeLetter? c with
  | some letter =>
    obtain ⟨hu, hback⟩ := unescapeLetter?_of_escapeLetter? hletter
    change stringBody? ('\\' :: letter :: more) = _
    rw [stringBody?.eq_3 _ _ fun _ _ _ _ _ heq _ => hu heq, hback]
  | none =>
    dsimp only
    split
    · next hcontrol =>
      change stringBody? ('\\' :: 'u' :: '0' :: '0' :: _ :: _ :: more) = _
      rw [stringBody?, hexQuad?_control c.toNat hcontrol]
      dsimp only
      rw [if_neg (by omega), if_neg (by omega), Char.ofNat_toNat]
    · next hplain =>
      -- a quote and a backslash would have been escaped by their letters
      have hquote : c ≠ '"' := by
        rintro rfl
        exact absurd hletter (by decide)
      have hbackslash : c ≠ '\\' := by
        rintro rfl
        exact absurd hletter (by decide)
      change stringBody? (c :: more) = _
      rw [stringBody?.eq_4 _ _ hquote (fun _ _ _ _ _ heq _ => hbackslash heq)
        fun _ _ heq _ => hbackslash heq, if_neg (not_or.mpr ⟨hbackslash, hplain⟩)]

/-- **A string is read with all its characters**, up to the quote behind it. -/
theorem stringBody?_quoted (s rest : List Char) :
    stringBody? (s.flatMap escapeChar ++ '"' :: rest) = some (s, rest) := by
  induction s with
  | nil => rw [List.flatMap_nil, List.nil_append, stringBody?]
  | cons c s ih =>
    rw [List.flatMap_cons, List.append_assoc, stringBody?_escapeChar, ih]
    rfl

theorem quote_append (s : String) (rest : List Char) :
    quote s ++ rest = '"' :: (s.toList.flatMap escapeChar ++ '"' :: rest) := by
  rw [quote, List.cons_append, List.append_assoc]
  rfl

/-! ### White space -/

/-- A text that is nothing but white space. -/
def IsGap (gap : List Char) : Prop := ∀ c ∈ gap, isSpace c = true

theorem isGap_nil : IsGap [] := by simp [IsGap]

theorem IsGap.append {more : List Char} (h : IsGap gap) (h' : IsGap more) : IsGap (gap ++ more) :=
  List.forall_mem_append.mpr ⟨h, h'⟩

/-- What holds of each of the four characters holds of all white space. -/
theorem IsGap.forall_mem {p : Char → Prop} (hgap : IsGap gap) (h : p ' ' ∧ p '\n' ∧ p '\t' ∧ p '\r') :
    ∀ c ∈ gap, p c := by
  intro c hc
  have hspace : ((c = ' ' ∨ c = '\n') ∨ c = '\t') ∨ c = '\r' := by simpa [isSpace] using hgap c hc
  rcases hspace with ((rfl | rfl) | rfl) | rfl
  exacts [h.1, h.2.1, h.2.2.1, h.2.2.2]

theorem skipSpace_append (hgap : IsGap gap) (text : List Char) :
    skipSpace (gap ++ text) = skipSpace text := List.dropWhile_append_of_pos hgap

theorem skipSpace_cons {c : Char} (hc : isSpace c = false) (rest : List Char) :
    skipSpace (c :: rest) = c :: rest := List.dropWhile_cons_of_neg (by simp [hc])

/-- White space goes on with no number. -/
theorem IsGap.ends_append (hgap : IsGap gap) (hrest : Ends rest) : Ends (gap ++ rest) := by
  cases gap with
  | nil => exact hrest
  | cons d gap =>
    rintro _ ⟨⟩
    exact hgap.forall_mem (p := fun d => d.isDigit = false ∧ d ≠ '.' ∧ d ≠ 'e' ∧ d ≠ 'E') (by decide) d
      List.mem_cons_self

theorem IsGap.ends {c : Char} (hgap : IsGap gap) (hc : Ends [c]) (rest : List Char) :
    Ends (gap ++ c :: rest) :=
  hgap.ends_append fun d hd => hc d hd

/-! ### Reading back -/

/-- A step yields a value and leaves a rest. -/
def Yields (step : Option (Taken α text)) (value : α) (rest : List Char) : Prop :=
  ∃ t, step = some t ∧ t.value = value ∧ t.rest = rest

/-- A step that leaves what is behind a text has taken something off. -/
theorem yields_of? (written : List Char) (hne : written ≠ []) (value : α) (rest : List Char) :
    Yields (Taken.of? (written ++ rest) value rest) value rest := by
  have hshorter : rest.length < (written ++ rest).length := by
    rw [List.length_append]
    exact Nat.lt_add_of_pos_left (List.length_pos_iff.mpr hne)
  exact ⟨_, dif_pos hshorter, rfl, rfl⟩

/-- What a value may start with: neither white space nor a closing bracket. -/
def Opens (c : Char) : Prop := isSpace c = false ∧ c ≠ ']' ∧ c ≠ '\x7d'

instance (c : Char) : Decidable (Opens c) := inferInstanceAs (Decidable (_ ∧ _))

/-- **A reader reads a text back as a value**: whatever follows the text that does not go on with it, the
reader takes off the text and yields the value. -/
structure ReadsBack (read? : (text : List Char) → Option (Taken α text)) (written : List Char)
    (value : α) : Prop where
  opens : ∃ c more, written = c :: more ∧ Opens c
  reads : ∀ rest, Ends rest → Yields (read? (written ++ rest)) value rest

variable {read? : (text : List Char) → Option (Taken α text)} {write : α → List Char}
  {items : List α} {item : α}

theorem ReadsBack.skipSpace_eq (h : ReadsBack read? written item) (rest : List Char) :
    skipSpace (written ++ rest) = written ++ rest := by
  obtain ⟨c, more, rfl, hc⟩ := h.opens
  exact skipSpace_cons hc.1 _

/-! ### Items between brackets -/

/-- A closing bracket is no comma, and neither white space nor a part of a value. -/
structure IsClose (close : Char) : Prop where
  ne_comma : close ≠ ','
  isSpace : isSpace close = false
  ends : Ends [close]
  not_opens : ¬ Opens close

theorem isClose_bracket : IsClose ']' := ⟨by decide, rfl, by simp [Ends], by decide⟩

theorem isClose_brace : IsClose '\x7d' := ⟨by decide, rfl, by simp [Ends], by decide⟩

theorem items?_last {left : List Char} (hitem : Yields (read? text) item left) (hclose : close ≠ ',')
    (hleft : skipSpace left = close :: rest) : Yields (items? close read? text) [item] rest := by
  obtain ⟨t, ht, rfl, rfl⟩ := hitem
  rw [items?, ht]
  dsimp only
  split
  · next heq => exact absurd (List.cons.inj (hleft.symm.trans heq)).1 hclose
  · next heq =>
    obtain ⟨rfl, rfl⟩ := List.cons.inj (hleft.symm.trans heq)
    exact ⟨_, if_pos rfl, rfl, rfl⟩
  · next heq => exact absurd (hleft.symm.trans heq) (by simp)

theorem items?_more {left final : List Char} (hitem : Yields (read? text) item left)
    (hleft : skipSpace left = ',' :: rest)
    (hmore : Yields (items? close read? (skipSpace rest)) items final) :
    Yields (items? close read? text) (item :: items) final := by
  obtain ⟨t, ht, rfl, rfl⟩ := hitem
  obtain ⟨more, hmore, rfl, rfl⟩ := hmore
  rw [items?, ht]
  dsimp only
  split
  · next heq =>
    obtain ⟨-, rfl⟩ := List.cons.inj (hleft.symm.trans heq)
    rw [hmore]
    exact ⟨_, rfl, rfl, rfl⟩
  · next hcomma heq =>
    obtain ⟨rfl, rfl⟩ := List.cons.inj (hleft.symm.trans heq)
    exact absurd rfl hcomma
  · next heq => exact absurd (hleft.symm.trans heq) (by simp)

theorem bracketed?_close (h : skipSpace text = close :: rest) :
    Yields (bracketed? close read? text) [] rest := by
  rw [bracketed?]
  split
  · next heq =>
    obtain ⟨rfl, rfl⟩ := List.cons.inj (h.symm.trans heq)
    exact ⟨_, if_pos rfl, rfl, rfl⟩
  · next heq => exact absurd (h.symm.trans heq) (by simp)

theorem bracketed?_items {c : Char} {more : List Char} (h : skipSpace text = c :: more) (hc : c ≠ close)
    (hitems : Yields (items? close read? (skipSpace text)) items rest) :
    Yields (bracketed? close read? text) items rest := by
  obtain ⟨t, ht, rfl, rfl⟩ := hitems
  rw [bracketed?]
  split
  · next heq =>
    obtain ⟨rfl, rfl⟩ := List.cons.inj (h.symm.trans heq)
    rw [if_neg hc, ht]
    exact ⟨_, rfl, rfl, rfl⟩
  · next heq => exact absurd (h.symm.trans heq) (by simp)

/-- Items with commas between them, each behind the same white space. -/
def separated (gap : List Char) (write : α → List Char) : List α → List Char
  | [] => []
  | [item] => gap ++ write item
  | item :: rest => gap ++ write item ++ ',' :: separated gap write rest

theorem separated_cons_cons (gap : List Char) (write : α → List Char) (first second : α) (more : List α) :
    separated gap write (first :: second :: more) =
      gap ++ (write first ++ ',' :: separated gap write (second :: more)) := by
  rw [separated, List.append_assoc]
  exact fun heq => absurd heq (by simp)

/-- **Items are read back one after the other**, up to the bracket that closes them. -/
theorem items?_separated (hclose : IsClose close) (hgap : IsGap gap) (htail : IsGap tail)
    (hne : items ≠ []) (hitems : ∀ item ∈ items, ReadsBack read? (write item) item) (rest : List Char) :
    Yields (items? close read? (skipSpace (separated gap write items ++ (tail ++ close :: rest)))) items
      rest := by
  induction items with
  | nil => exact absurd rfl hne
  | cons item more ih =>
    obtain ⟨hitem, hmore⟩ := List.forall_mem_cons.mp hitems
    -- behind an item stands the bracket, or a comma and the other items
    cases more with
    | nil =>
      have hread := hitem.reads _ (htail.ends hclose.ends rest)
      rw [separated, List.append_assoc, skipSpace_append hgap, hitem.skipSpace_eq]
      refine items?_last hread hclose.ne_comma ?_
      rw [skipSpace_append htail, skipSpace_cons hclose.isSpace]
    | cons second others =>
      have hread := hitem.reads (',' :: (separated gap write (second :: others) ++ (tail ++ close :: rest)))
        (by simp [Ends])
      rw [separated_cons_cons, List.append_assoc, skipSpace_append hgap, List.append_assoc,
        hitem.skipSpace_eq, List.cons_append]
      exact items?_more hread (skipSpace_cons rfl _) (ih (by simp) hmore)

/-- Items are read back between brackets. -/
theorem bracketed?_separated (hclose : IsClose close) (hgap : IsGap gap) (htail : IsGap tail)
    (hitems : ∀ item ∈ items, ReadsBack read? (write item) item) (rest : List Char) :
    Yields (bracketed? close read? (separated gap write items ++ (tail ++ close :: rest))) items rest := by
  cases items with
  | nil =>
    refine bracketed?_close ?_
    rw [separated, List.nil_append, skipSpace_append htail, skipSpace_cons hclose.isSpace]
  | cons item more =>
    -- what the first item starts with does not close the brackets
    obtain ⟨c, written, hc, hopens⟩ := (hitems item List.mem_cons_self).opens
    have hfirst : ∃ others, separated gap write (item :: more) = gap ++ c :: others := by
      cases more with
      | nil => exact ⟨written, by rw [separated, hc]⟩
      | cons second more => exact ⟨_, by rw [separated_cons_cons, hc, List.cons_append]⟩
    obtain ⟨others, hothers⟩ := hfirst
    have hskip : skipSpace (separated gap write (item :: more) ++ (tail ++ close :: rest)) =
        c :: (others ++ (tail ++ close :: rest)) := by
      rw [hothers, List.append_assoc, skipSpace_append hgap, List.cons_append, skipSpace_cons hopens.1]
    have hne : c ≠ close := fun heq => hclose.not_opens (heq ▸ hopens)
    exact bracketed?_items hskip hne (items?_separated hclose hgap htail (by simp) hitems rest)

/-! ### Arrays and objects -/

/-- **An array is read back** if its items are. -/
theorem ReadsBack.array {depth : Nat} {write : Document → List Char} {items : List Document}
    (hgap : IsGap gap) (htail : IsGap tail)
    (hitems : ∀ item ∈ items, ReadsBack (value? depth) (write item) item) :
    ReadsBack (value? (depth + 1)) ('[' :: (separated gap write items ++ tail ++ [']']))
      (.array items) where
  opens := ⟨_, _, rfl, by decide⟩
  reads rest _ := by
    obtain ⟨t, ht, hvalue, hrest⟩ := bracketed?_separated isClose_bracket hgap htail hitems rest
    have htext : '[' :: (separated gap write items ++ tail ++ [']']) ++ rest =
        '[' :: (separated gap write items ++ (tail ++ ']' :: rest)) := by simp
    rw [htext, value?, ht]
    exact ⟨_, rfl, congrArg _ hvalue, hrest⟩

/-- A member is read back if its name and its value are. -/
theorem ReadsBack.member_of_body {read? : (text : List Char) → Option (Taken Document text)}
    {d : Document} {before after body name : List Char} (hbefore : IsGap before) (hafter : IsGap after)
    (hbody : ∀ rest, stringBody? (body ++ '"' :: rest) = some (name, rest))
    (h : ReadsBack read? written d) :
    ReadsBack (member? read?) ('"' :: (body ++ '"' :: (before ++ ':' :: (after ++ written))))
      (String.ofList name, d) where
  opens := ⟨_, _, rfl, by decide⟩
  reads rest hrest := by
    obtain ⟨t, ht, hvalue, hleft⟩ := h.reads rest hrest
    have htaken := yields_of? ('"' :: (body ++ '"' :: (before ++ ':' :: (after ++ written)))) (by simp)
      (String.ofList name, d) rest
    have htext : '"' :: (body ++ '"' :: (before ++ ':' :: (after ++ written))) ++ rest =
        '"' :: (body ++ '"' :: (before ++ ':' :: (after ++ (written ++ rest)))) := by simp
    have hcolon : after? [':'] (':' :: (after ++ (written ++ rest))) =
        some (after ++ (written ++ rest)) := rfl
    -- the reader passes the name, the colon and the value one after the other
    rw [htext] at htaken ⊢
    rw [member?, hbody]
    simp only [Option.bind_eq_bind, Option.bind_some]
    rw [skipSpace_append hbefore, skipSpace_cons rfl, hcolon, Option.bind_some, skipSpace_append hafter,
      h.skipSpace_eq, ht, Option.bind_some, hvalue, hleft]
    exact htaken

/-- A member is read back if its value is. -/
theorem ReadsBack.member {read? : (text : List Char) → Option (Taken Document text)} {d : Document}
    (hgap : IsGap gap) (h : ReadsBack read? written d) (name : String) :
    ReadsBack (member? read?) (quote name ++ ':' :: (gap ++ written)) (name, d) := by
  have hread := ReadsBack.member_of_body isGap_nil hgap (stringBody?_quoted name.toList) h
  rw [String.ofList_toList] at hread
  rwa [quote_append]

/-- The members of an object that stand in order stay as they are. -/
theorem ofMembers_of_ascending {members : List (String × Document)}
    (h : members.Pairwise fun a b => a.1 < b.1) : ofMembers members = .object members :=
  congrArg object (NameMap.foldl_insertEntry h)

/-- **An object is read back** if the values of its members are, and they stand in order. -/
theorem ReadsBack.object {depth : Nat} {write : Document → List Char}
    {members : List (String × Document)} {space : List Char}
    (hgap : IsGap gap) (htail : IsGap tail) (hspace : IsGap space)
    (hsorted : members.Pairwise fun a b => a.1 < b.1)
    (hmembers : ∀ member ∈ members, ReadsBack (value? depth) (write member.2) member.2) :
    ReadsBack (value? (depth + 1))
      ('\x7b' :: (separated gap (fun member => quote member.1 ++ ':' :: (space ++ write member.2)) members ++
        tail ++ ['\x7d']))
      (.object members) where
  opens := ⟨_, _, rfl, by decide⟩
  reads rest _ := by
    -- a member is read as it is written, and what is read is put in order once more
    have hread := fun member hmember => (hmembers member hmember).member hspace member.1
    obtain ⟨t, ht, hvalue, hrest⟩ := bracketed?_separated isClose_brace hgap htail hread rest
    have htext (inner : List Char) : '\x7b' :: (inner ++ tail ++ ['\x7d']) ++ rest =
        '\x7b' :: (inner ++ (tail ++ '\x7d' :: rest)) := by simp
    rw [htext, value?, ht]
    refine ⟨_, rfl, ?_, hrest⟩
    exact (congrArg ofMembers hvalue).trans (ofMembers_of_ascending hsorted)

end Formulary.Document
