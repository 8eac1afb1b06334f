import Formulary.Proofs.Lexeme.Reading

/-!
# The bracket that closes a list

The search for the end of a bracketed list goes over a text character by character (`BracketState.next?`). It knows
brackets, strings and backslashes and nothing else of documents, and a brace counts like a bracket: what closes one
is whatever closing bracket or brace comes when no other is open.

`IsNested` is the grammar of what may stand between brackets for the search, with strings in which the brackets do not
count, and a text `IsEnclosed` if it is such a text between an opening and a closing bracket. The search ends behind an
enclosed text wherever one stands (`IsEnclosed.exists_brackets?`), and where it ends there is one in front of it
(`brackets?_eq_none_iff`). So it ends neither early nor late.

Soundness is the direction that needs a stronger statement. In the midst of a search some brackets are open, of which
the text closes one after the other before the search ends, and the search may be in a string or behind a backslash;
`BracketState.Leads` says this for each state.

From the first bracket on one is open as long as the search goes on (`nesting_pos_of_search`), so that no bracket is
closed that has not been opened.
-/

namespace Formulary.Lexeme

variable {text more front rest : List Char}

/-! ### One step -/

/-- A bracket or a brace that opens. -/
def IsOpening (c : Char) : Prop := c = '[' ∨ c = '\x7b'

/-- A bracket or a brace that closes. -/
def IsClosing (c : Char) : Prop := c = ']' ∨ c = '\x7d'

/-- The characters that the search takes notice of outside of strings. -/
def bracketMarks : List Char := ['"', '[', ']', '\x7b', '\x7d']

/-- Where the search is behind a character, with so many brackets open, if the character does not end it. -/
def BracketState.next? (state : BracketState) (nesting : Nat) (c : Char) : Option (BracketState × Nat) :=
  match state with
  | .escaped => some (.inString, nesting)
  | .inString => some (if c = '\\' then .escaped else if c = '"' then .plain else .inString, nesting)
  | .plain =>
    if c = '"' then some (.inString, nesting)
    else if c = '[' ∨ c = '\x7b' then some (.plain, nesting + 1)
    else if c = ']' ∨ c = '\x7d' then if nesting ≤ 1 then none else some (.plain, nesting - 1)
    else some (.plain, nesting)

/-- What the search for the closing bracket leaves. -/
def behindBrackets? (state : BracketState) (nesting : Nat) (text : List Char) : Option (List Char) :=
  (brackets? state nesting text).map Taken.rest

theorem behindBrackets?_nil (state : BracketState) (nesting : Nat) :
    behindBrackets? state nesting [] = none := by
  cases state <;> simp [behindBrackets?, brackets?]

/-- The search goes on behind a character or ends there. -/
theorem behindBrackets?_cons (state : BracketState) (nesting : Nat) (c : Char) (rest : List Char) :
    behindBrackets? state nesting (c :: rest) =
      match state.next? nesting c with
      | some (state', nesting') => behindBrackets? state' nesting' rest
      | none => some rest := by
  cases state with
  | escaped => simp [behindBrackets?, brackets?, BracketState.next?, Function.comp_def]
  | inString => simp [behindBrackets?, brackets?, BracketState.next?, Function.comp_def]
  | plain =>
    simp only [behindBrackets?, brackets?, BracketState.next?]
    split_ifs <;> simp [Function.comp_def]

theorem behindBrackets?_other {c : Char} {nesting : Nat} (hc : c ∉ bracketMarks) (rest : List Char) :
    behindBrackets? .plain nesting (c :: rest) = behindBrackets? .plain nesting rest := by
  simp only [bracketMarks, List.mem_cons, List.not_mem_nil, or_false, not_or] at hc
  simp [behindBrackets?_cons, BracketState.next?, hc]

theorem behindBrackets?_open {c : Char} {nesting : Nat} (hc : IsOpening c) (rest : List Char) :
    behindBrackets? .plain nesting (c :: rest) = behindBrackets? .plain (nesting + 1) rest := by
  rcases hc with rfl | rfl <;> simp [behindBrackets?_cons, BracketState.next?]

theorem behindBrackets?_close {c : Char} {nesting : Nat} (hc : IsClosing c) (rest : List Char) :
    behindBrackets? .plain (nesting + 2) (c :: rest) = behindBrackets? .plain (nesting + 1) rest := by
  rcases hc with rfl | rfl <;> simp [behindBrackets?_cons, BracketState.next?]

theorem behindBrackets?_last {c : Char} (hc : IsClosing c) (rest : List Char) :
    behindBrackets? .plain 1 (c :: rest) = some rest := by
  rcases hc with rfl | rfl <;> simp [behindBrackets?_cons, BracketState.next?]

theorem behindBrackets?_quote (nesting : Nat) (rest : List Char) :
    behindBrackets? .plain nesting ('"' :: rest) = behindBrackets? .inString nesting rest := by
  simp [behindBrackets?_cons, BracketState.next?]

theorem behindBrackets?_unquote (nesting : Nat) (rest : List Char) :
    behindBrackets? .inString nesting ('"' :: rest) = behindBrackets? .plain nesting rest := by
  simp [behindBrackets?_cons, BracketState.next?]

theorem behindBrackets?_plain {c : Char} {nesting : Nat} (hquote : c ≠ '"') (hbackslash : c ≠ '\\')
    (rest : List Char) :
    behindBrackets? .inString nesting (c :: rest) = behindBrackets? .inString nesting rest := by
  simp [behindBrackets?_cons, BracketState.next?, hquote, hbackslash]

theorem behindBrackets?_escaped (c : Char) (nesting : Nat) (rest : List Char) :
    behindBrackets? .inString nesting ('\\' :: c :: rest) = behindBrackets? .inString nesting rest := by
  simp [behindBrackets?_cons, BracketState.next?]

/-! ### The way of the search -/

/-- Where the search is behind a text, and how many brackets are open there, if it goes through the text. -/
def searchFrom (start : BracketState × Nat) (text : List Char) : Option (BracketState × Nat) :=
  text.foldlM (fun reached c => reached.1.next? reached.2 c) start

/-- Where a search is behind a text that it starts with. -/
def search (text : List Char) : Option (BracketState × Nat) := searchFrom (.plain, 0) text

variable {start reached : BracketState × Nat}

theorem searchFrom_cons_eq_some {c : Char} (h : searchFrom start (c :: front) = some reached) :
    ∃ next, start.1.next? start.2 c = some next ∧ searchFrom next front = some reached := by
  rw [searchFrom, List.foldlM_cons] at h
  exact Option.bind_eq_some_iff.mp h

/-- The search goes on from where it is. -/
theorem behindBrackets?_of_searchFrom (h : searchFrom start front = some reached) (rest : List Char) :
    behindBrackets? start.1 start.2 (front ++ rest) = behindBrackets? reached.1 reached.2 rest := by
  induction front generalizing start with
  | nil =>
    obtain rfl := Option.some.inj h
    rfl
  | cons c front ih =>
    obtain ⟨next, hnext, hfront⟩ := searchFrom_cons_eq_some h
    rw [List.cons_append, behindBrackets?_cons, hnext]
    exact ih hfront

/-- A character that does not end the search leaves a bracket open if one is open. -/
theorem BracketState.next?_pos {state state' : BracketState} {nesting nesting' : Nat} {c : Char}
    (h : state.next? nesting c = some (state', nesting')) (hpos : 0 < nesting) : 0 < nesting' := by
  cases state with
  | escaped =>
    obtain ⟨-, rfl⟩ := Prod.mk.inj (Option.some.inj h)
    exact hpos
  | inString =>
    obtain ⟨-, rfl⟩ := Prod.mk.inj (Option.some.inj h)
    exact hpos
  -- outside strings a closing bracket goes on only if more than one is open
  | plain =>
    simp only [next?] at h
    split_ifs at h
    all_goals
      obtain ⟨-, rfl⟩ := Prod.mk.inj (Option.some.inj h)
      omega

theorem nesting_pos_of_searchFrom (h : searchFrom start front = some reached) (hpos : 0 < start.2) :
    0 < reached.2 := by
  induction front generalizing start with
  | nil =>
    obtain rfl := Option.some.inj h
    exact hpos
  | cons c front ih =>
    obtain ⟨next, hnext, hfront⟩ := searchFrom_cons_eq_some h
    exact ih hfront (BracketState.next?_pos hnext hpos)

/-- **Behind an opening bracket one is open** as long as the search goes on. -/
theorem nesting_pos_of_search {c : Char} (hc : IsOpening c) (h : search (c :: front) = some reached) :
    0 < reached.2 := by
  obtain ⟨next, hnext, hfront⟩ := searchFrom_cons_eq_some h
  refine nesting_pos_of_searchFrom hfront ?_
  rcases hc with rfl | rfl
  all_goals
    obtain rfl := Option.some.inj hnext
    exact Nat.one_pos

/-! ### What stands between brackets -/

/-- The inside of a string: behind a backslash may stand anything. -/
inductive IsInside : List Char → Prop where
  | nil : IsInside []
  | plain {c : Char} {rest : List Char} (hquote : c ≠ '"') (hbackslash : c ≠ '\\') (h : IsInside rest) :
    IsInside (c :: rest)
  | escaped (c : Char) {rest : List Char} (h : IsInside rest) : IsInside ('\\' :: c :: rest)

/-- A text in which brackets are closed as often as they are opened, those in strings left out. -/
inductive IsNested : List Char → Prop where
  | nil : IsNested []
  | plain {c : Char} {rest : List Char} (hc : c ∉ bracketMarks) (h : IsNested rest) : IsNested (c :: rest)
  | string {body rest : List Char} (hbody : IsInside body) (h : IsNested rest) :
    IsNested ('"' :: (body ++ '"' :: rest))
  | brackets {c d : Char} {inner rest : List Char} (hc : IsOpening c) (hinner : IsNested inner)
    (hd : IsClosing d) (h : IsNested rest) : IsNested (c :: (inner ++ d :: rest))

/-- A text from an opening bracket to the one that closes it. -/
def IsEnclosed (text : List Char) : Prop :=
  ∃ c inner d, IsOpening c ∧ IsNested inner ∧ IsClosing d ∧ text = c :: (inner ++ [d])

namespace IsNested

theorem append (h : IsNested text) (h' : IsNested more) : IsNested (text ++ more) := by
  induction h with
  | nil => exact h'
  | plain hc _ ih => exact .plain hc ih
  | @string body rest hbody _ ih =>
    rw [List.cons_append, List.append_assoc, List.cons_append]
    exact .string hbody ih
  | @brackets c d inner rest hc hinner hd _ _ ih =>
    rw [List.cons_append, List.append_assoc, List.cons_append]
    exact .brackets hc hinner hd ih

theorem of_forall (h : ∀ c ∈ text, c ∉ bracketMarks) : IsNested text := by
  induction text with
  | nil => exact .nil
  | cons c text ih =>
    obtain ⟨hc, htext⟩ := List.forall_mem_cons.mp h
    exact .plain hc (ih htext)

end IsNested

/-! ### The search goes neither too far -/

theorem IsInside.behindBrackets?_eq {body : List Char} (h : IsInside body) (nesting : Nat)
    (rest : List Char) :
    behindBrackets? .inString nesting (body ++ '"' :: rest) = behindBrackets? .plain nesting rest := by
  induction h with
  | nil => exact behindBrackets?_unquote nesting rest
  | plain hquote hbackslash _ ih => rw [List.cons_append, behindBrackets?_plain hquote hbackslash, ih]
  | escaped c _ ih => rw [List.cons_append, List.cons_append, behindBrackets?_escaped, ih]

/-- **The search goes through a nested text** when brackets are open. -/
theorem IsNested.behindBrackets?_eq (h : IsNested text) (nesting : Nat) (rest : List Char) :
    behindBrackets? .plain (nesting + 1) (text ++ rest) = behindBrackets? .plain (nesting + 1) rest := by
  -- the number of open brackets is general, since it is one more within inner brackets
  induction h generalizing nesting rest with
  | nil => rfl
  | plain hc _ ih => rw [List.cons_append, behindBrackets?_other hc, ih]
  | @string body left hbody _ ih =>
    rw [List.cons_append, List.append_assoc, List.cons_append, behindBrackets?_quote,
      hbody.behindBrackets?_eq, ih]
  | @brackets c d inner left hc _ hd _ ihinner ih =>
    rw [List.cons_append, List.append_assoc, List.cons_append, behindBrackets?_open hc, ihinner,
      behindBrackets?_close hd, ih]

/-- **The search ends behind an enclosed text**, whatever follows it. -/
theorem IsEnclosed.exists_brackets? (h : IsEnclosed front) (rest : List Char) :
    ∃ t, brackets? .plain 0 (front ++ rest) = some t ∧ t.consumed = front ∧ t.rest = rest := by
  obtain ⟨c, inner, d, hc, hinner, hd, rfl⟩ := h
  have hbehind : behindBrackets? .plain 0 (c :: (inner ++ [d]) ++ rest) = some rest := by
    rw [List.cons_append, List.append_assoc, List.singleton_append, behindBrackets?_open hc,
      hinner.behindBrackets?_eq, behindBrackets?_last hd]
  obtain ⟨t, ht, hrest⟩ := Option.map_eq_some_iff.mp hbehind
  exact ⟨t, ht, Taken.consumed_eq (by rw [hrest]), hrest⟩

/-! ### Nor does it stop before -/

/-- The text closes so many brackets, with nested texts between them, and goes on with `rest`. -/
inductive LeadsOut : Nat → List Char → List Char → Prop where
  | last {d : Char} {inner rest : List Char} (hinner : IsNested inner) (hd : IsClosing d) :
    LeadsOut 1 (inner ++ d :: rest) rest
  | more {n : Nat} {d : Char} {inner left rest : List Char} (hinner : IsNested inner) (hd : IsClosing d)
    (h : LeadsOut n left rest) : LeadsOut (n + 1) (inner ++ d :: left) rest

namespace LeadsOut

variable {n : Nat} {part : List Char}

/-- What can stand before a nested text can stand before the first bracket that is closed. -/
theorem prepend (h : LeadsOut n text rest) (hpart : ∀ inner, IsNested inner → IsNested (part ++ inner)) :
    LeadsOut n (part ++ text) rest := by
  cases h with
  | last hinner hd =>
    rw [← List.append_assoc]
    exact .last (hpart _ hinner) hd
  | more hinner hd h =>
    rw [← List.append_assoc]
    exact .more (hpart _ hinner) hd h

/-- What is opened is the first that is closed. -/
theorem opened {c : Char} (hc : IsOpening c) (hn : 0 < n) (h : LeadsOut (n + 1) text rest) :
    LeadsOut n (c :: text) rest := by
  cases h with
  | last => exact absurd hn (Nat.lt_irrefl 0)
  -- two brackets at least are closed, and the first of them is the one opened here
  | @more _ d inner left _ hinner hd h =>
    have hall : LeadsOut n ((c :: (inner ++ [d])) ++ left) rest := h.prepend fun more hmore => by
      simpa using IsNested.brackets hc hinner hd hmore
    simpa using hall

end LeadsOut

/-- From this state on, with so many brackets open, the text closes them all and goes on with `rest`. -/
def BracketState.Leads (state : BracketState) (nesting : Nat) (text rest : List Char) : Prop :=
  match state with
  | .plain => LeadsOut nesting text rest
  | .inString => ∃ body left, IsInside body ∧ text = body ++ '"' :: left ∧ LeadsOut nesting left rest
  | .escaped => ∃ c body left, IsInside body ∧ text = c :: (body ++ '"' :: left) ∧ LeadsOut nesting left rest

/-- **Where the search ends all brackets have been closed.** -/
theorem leads_of_behindBrackets? {state : BracketState} {nesting : Nat}
    (h : behindBrackets? state nesting text = some rest) (hpos : 0 < nesting) :
    state.Leads nesting text rest := by
  -- along the text, the state and the number of open brackets being general
  induction text generalizing state nesting with
  | nil => simp [behindBrackets?_nil] at h
  | cons c text ih =>
    cases state with
    | escaped =>
      obtain ⟨body, left, hbody, rfl, hleft⟩ := ih (by rwa [behindBrackets?_cons] at h) hpos
      exact ⟨c, body, left, hbody, rfl, hleft⟩
    | inString =>
      by_cases hbackslash : c = '\\'
      · subst hbackslash
        -- a backslash takes the next character with it, whatever that is
        obtain ⟨d, body, left, hbody, rfl, hleft⟩ := ih (by rwa [behindBrackets?_cons] at h) hpos
        exact ⟨_, left, .escaped d hbody, rfl, hleft⟩
      · by_cases hquote : c = '"'
        · subst hquote
          rw [behindBrackets?_unquote] at h
          exact ⟨[], text, .nil, rfl, ih h hpos⟩
        · rw [behindBrackets?_plain hquote hbackslash] at h
          obtain ⟨body, left, hbody, rfl, hleft⟩ := ih h hpos
          exact ⟨_, left, .plain hquote hbackslash hbody, rfl, hleft⟩
    | plain =>
      by_cases hquote : c = '"'
      · -- the string stands before what is closed next
        subst hquote
        rw [behindBrackets?_quote] at h
        obtain ⟨body, left, hbody, rfl, hleft⟩ := ih h hpos
        have hall : LeadsOut nesting (('"' :: (body ++ ['"'])) ++ left) rest :=
          hleft.prepend fun inner hinner => by simpa using IsNested.string hbody hinner
        simpa [BracketState.Leads] using hall
      · by_cases hopen : IsOpening c
        · -- of one bracket more the first that is closed is this one
          rw [behindBrackets?_open hopen] at h
          exact (ih h (Nat.succ_pos nesting)).opened hopen hpos
        · by_cases hclose : IsClosing c
          · -- the search ends if this closes the last that is open
            obtain ⟨n, rfl⟩ := Nat.exists_eq_succ_of_ne_zero hpos.ne'
            cases n with
            | zero =>
              obtain rfl : text = rest := Option.some.inj ((behindBrackets?_last hclose text).symm.trans h)
              exact .last .nil hclose
            | succ n =>
              rw [behindBrackets?_close hclose] at h
              exact .more .nil hclose (ih h (Nat.succ_pos n))
          · have hc : c ∉ bracketMarks := by
              simp only [IsOpening, IsClosing, not_or] at hopen hclose
              simp [bracketMarks, hquote, hopen, hclose]
            rw [behindBrackets?_other hc] at h
            have hall : LeadsOut nesting ([c] ++ text) rest :=
              (ih h hpos).prepend fun inner hinner => .plain hc hinner
            exact hall

/-- **The search does not end** exactly if the text does not start with an enclosed one. -/
theorem brackets?_eq_none_iff {c : Char} (hc : IsOpening c) :
    brackets? .plain 0 (c :: text) = none ↔ ¬∃ front rest, c :: text = front ++ rest ∧ IsEnclosed front := by
  constructor
  · rintro hnone ⟨front, rest, htext, hfront⟩
    obtain ⟨t, ht, -, -⟩ := hfront.exists_brackets? rest
    have hbehind : behindBrackets? .plain 0 (front ++ rest) = none := by
      rw [← htext, behindBrackets?, hnone]
      rfl
    rw [behindBrackets?, ht] at hbehind
    contradiction
  · intro hfront
    refine Option.eq_none_iff_forall_ne_some.mpr fun t ht => hfront ?_
    have hbehind : behindBrackets? .plain 0 (c :: text) = some t.rest := congrArg (Option.map _) ht
    rw [behindBrackets?_open hc] at hbehind
    -- the text between the brackets is all that is left to say: it leads out of the one that is open
    generalize t.rest = rest at hbehind
    have hleads : LeadsOut 1 text rest := leads_of_behindBrackets? hbehind Nat.one_pos
    cases hleads with
    | @last d inner _ hinner hd =>
      exact ⟨c :: (inner ++ [d]), rest, by simp, c, inner, d, hc, hinner, hd, rfl⟩
    | more _ _ h => nomatch h

/-! ### Lists in a text -/

/-- A list is reported as unterminated if the search for its end does not end. -/
theorem read_eq_unterminatedList_iff {position : Nat} :
    read position ('[' :: text) = .error (.malformed (.unterminatedList position)) ↔
      brackets? .plain 0 ('[' :: text) = none := by
  rw [read_bracket, bracketed]
  cases brackets? .plain 0 ('[' :: text) with
  | none => exact iff_of_true rfl rfl
  | some t =>
    refine iff_of_false (fun h => ?_) (by simp)
    -- an option list that cannot be read has a fault of its own
    simp only [optionList] at h
    split at h
    · simp [Except.map] at h
    · split at h
      · simp [Except.map] at h
      · simp [Except.map] at h

/-- **Behind an enclosed list the text goes on**, if the list is one of options. -/
theorem ofCharsFrom_of_isEnclosed {inner : List Char} (h : IsEnclosed ('[' :: inner)) (rest : List Char)
    (position : Nat) :
    Lexemes.ofCharsFrom position ('[' :: (inner ++ rest)) =
      match optionList position ('[' :: inner) with
      | .error fault => ⟨[], .faulty fault⟩
      | .ok v =>
        let others := Lexemes.ofCharsFrom (position + Text.byteLength ('[' :: inner)) rest
        ⟨⟨.literal v, position⟩ :: others.items, others.ending⟩ := by
  obtain ⟨t, ht, hconsumed, hrest⟩ : ∃ t, brackets? .plain 0 ('[' :: (inner ++ rest)) = some t ∧
      t.consumed = '[' :: inner ∧ t.rest = rest := h.exists_brackets? rest
  -- the reader gives what the list is read from to the reader of options, and nothing of the rest
  have hread : read position ('[' :: (inner ++ rest)) =
      (optionList position ('[' :: inner)).map fun v => some (t.map fun _ => .literal v) := by
    rw [read_bracket, bracketed, ht, ← hconsumed]
    dsimp only
    cases optionList position t.consumed <;> rfl
  rw [Lexemes.ofCharsFrom_cons (by decide), hread]
  cases optionList position ('[' :: inner) with
  | error fault => rfl
  | ok v =>
    have hbytes : (t.map fun _ => Lexeme.literal v).consumed = '[' :: inner := hconsumed
    simp only [Except.map, hbytes, Taken.rest_map, hrest, Taken.value_map]

end Formulary.Lexeme
