import Formulary.Proofs.Document.Reading

/-!
# Documents are read as they are written

A document can be written if its numbers are JSON numbers, the members of its objects stand in order, and
it is not nested too deep (`WellFormed`). Then it is read as it is written, without white space
(`ofText?_render`) and over several lines (`ofText?_renderPretty`).
-/

namespace Formulary.Document

/-- **A document that can be written**, with at most that many arrays and objects inside each other: its
numbers are JSON numbers, and the members of its objects stand in order. -/
inductive WellFormed : Nat → Document → Prop
  | null {depth : Nat} : WellFormed depth null
  | bool {depth : Nat} (b : Bool) : WellFormed depth (bool b)
  | number {depth : Nat} {text : String} (h : number? text.toList = some (text.toList, [])) :
    WellFormed depth (number text)
  | string {depth : Nat} (s : String) : WellFormed depth (string s)
  | array {depth : Nat} {items : List Document} (h : ∀ item ∈ items, WellFormed depth item) :
    WellFormed (depth + 1) (array items)
  | object {depth : Nat} {members : List (String × Document)}
    (sorted : members.Pairwise fun a b => a.1 < b.1) (h : ∀ member ∈ members, WellFormed depth member.2) :
    WellFormed (depth + 1) (object members)

/-! ### Values that hold no others -/

theorem value?_eq_scalar? {c : Char} (hbracket : c ≠ '[') (hbrace : c ≠ '\x7b') (depth : Nat)
    (text : List Char) : value? depth (c :: text) = scalar? (c :: text) := by
  cases depth with
  | zero => rw [value?]
  | succ depth => simp [value?, hbracket, hbrace]

theorem after?_append (word rest : List Char) : after? word (word ++ rest) = some rest := by
  induction word with
  | nil => rfl
  | cons c word ih => rw [List.cons_append, after?, if_pos rfl, ih]

/-- A word is read back by its first character. -/
theorem readsBack_word {c : Char} (word : List Char) {d : Document} (hopens : Opens c)
    (hbracket : c ≠ '[') (hbrace : c ≠ '\x7b')
    (hscalar : ∀ text, scalar? (c :: text) = (after? word text).bind (Taken.of? (c :: text) d))
    (depth : Nat) : ReadsBack (value? depth) (c :: word) d where
  opens := ⟨c, word, rfl, hopens⟩
  reads rest _ := by
    rw [List.cons_append, value?_eq_scalar? hbracket hbrace, hscalar, after?_append, Option.bind_some]
    exact yields_of? (c :: word) (by simp) d rest

/-- A string is read back if its inside is. -/
theorem readsBack_body {body s : List Char} (depth : Nat)
    (h : ∀ rest, stringBody? (body ++ '"' :: rest) = some (s, rest)) :
    ReadsBack (value? depth) ('"' :: (body ++ ['"'])) (string (String.ofList s)) where
  opens := ⟨'"', _, rfl, by decide⟩
  reads rest _ := by
    have htaken := yields_of? ('"' :: (body ++ ['"'])) (by simp) (string (String.ofList s)) rest
    have htext : '"' :: (body ++ ['"']) ++ rest = '"' :: (body ++ '"' :: rest) := by simp
    rw [htext] at htaken ⊢
    rwa [value?_eq_scalar? (by decide) (by decide), scalar?, h, Option.bind_some]

theorem readsBack_string (depth : Nat) (s : String) :
    ReadsBack (value? depth) (quote s) (string s) := by
  have hread := readsBack_body depth (stringBody?_quoted s.toList)
  rwa [String.ofList_toList] at hread

/-- A number is read back as what is kept of it. -/
theorem readsBack_kept {text kept : List Char} (depth : Nat) (h : number? text = some (kept, [])) :
    ReadsBack (value? depth) text (number (String.ofList kept)) := by
  obtain ⟨c, more, rfl, hc⟩ := number?_head h
  -- what starts a number starts nothing else
  have hne {d : Char} (hminus : d ≠ '-') (hdigit : d.isDigit = false) : c ≠ d := by
    rintro rfl
    exact hc.elim hminus fun hdigit' => absurd hdigit' (by simp [hdigit])
  have hopens : Opens c := by
    simp [Opens, isSpace, @hne ' ', @hne '\n', @hne '\t', @hne '\r', @hne ']', @hne '\x7d']
  refine ⟨⟨c, more, rfl, hopens⟩, fun rest hrest => ?_⟩
  have htaken := yields_of? (c :: more) (by simp) (number (String.ofList kept)) rest
  have hread := number?_append h hrest
  rw [List.cons_append] at htaken hread ⊢
  rw [value?_eq_scalar? (hne (by decide) rfl) (hne (by decide) rfl), scalar?.eq_5]
  · rwa [hread, Option.bind_some]
  all_goals exact fun _ heq => hne (by decide) rfl (List.cons.inj heq).1

theorem readsBack_number (depth : Nat) {text : String}
    (h : number? text.toList = some (text.toList, [])) :
    ReadsBack (value? depth) text.toList (number text) := by
  have hread := readsBack_kept depth h
  rwa [String.ofList_toList] at hread

/-! ### The two ways of writing -/

theorem renderItems_eq (items : List Document) : renderItems items = separated [] renderChars items := by
  induction items with
  | nil => rfl
  | cons item rest ih =>
    cases rest with
    | nil => rfl
    | cons second rest => rw [separated_cons_cons, ← ih, renderItems.eq_3 _ _ (by simp)]; rfl

theorem renderMembers_eq (members : List (String × Document)) :
    renderMembers members =
      separated [] (fun member => quote member.1 ++ ':' :: ([] ++ renderChars member.2)) members := by
  induction members with
  | nil => rfl
  | cons member rest ih =>
    cases rest with
    | nil => rfl
    | cons second rest =>
      rw [separated_cons_cons, ← ih, renderMembers.eq_3 _ _ _ (by simp)]
      simp

theorem prettyItems_eq (indent : Nat) (items : List Document) :
    prettyItems indent items = separated (newline indent) (prettyChars indent) items := by
  induction items with
  | nil => rfl
  | cons item rest ih =>
    cases rest with
    | nil => rfl
    | cons second rest =>
      rw [separated_cons_cons, ← ih, prettyItems.eq_3 _ _ _ (by simp), List.append_assoc]

theorem prettyMembers_eq (indent : Nat) (members : List (String × Document)) :
    prettyMembers indent members =
      separated (newline indent)
        (fun member => quote member.1 ++ ':' :: ([' '] ++ prettyChars indent member.2)) members := by
  induction members with
  | nil => rfl
  | cons member rest ih =>
    cases rest with
    | nil => simp [prettyMembers, separated]
    | cons second rest =>
      rw [separated_cons_cons, ← ih, prettyMembers.eq_3 _ _ _ _ (by simp)]
      simp

theorem isGap_newline (indent : Nat) : IsGap (newline indent) := by
  intro c hc
  rcases List.mem_cons.mp hc with rfl | hc
  · rfl
  · rw [(List.mem_replicate.mp hc).2]
    rfl

variable {depth : Nat} {d : Document}

/-- A document is read back as it is written without white space. -/
theorem WellFormed.reads (h : WellFormed depth d) : ReadsBack (value? depth) d.renderChars d := by
  induction h with
  | null => exact readsBack_word "ull".toList (by decide) (by decide) (by decide) (fun _ => rfl) _
  | bool b =>
    cases b with
    | true =>
      exact readsBack_word "rue".toList (by decide) (by decide) (by decide) (fun _ => rfl) _
    | false =>
      exact readsBack_word "alse".toList (by decide) (by decide) (by decide) (fun _ => rfl) _
  | number h => exact readsBack_number _ h
  | string s => exact readsBack_string _ s
  | array h ih =>
    -- without white space all gaps are empty
    rw [renderChars, renderItems_eq]
    simpa using ReadsBack.array isGap_nil isGap_nil ih
  | object sorted h ih =>
    rw [renderChars, renderMembers_eq]
    simpa using ReadsBack.object isGap_nil isGap_nil isGap_nil sorted ih

/-- A document is read back as it is written over several lines. -/
theorem WellFormed.readsPretty (h : WellFormed depth d) (indent : Nat) :
    ReadsBack (value? depth) (d.prettyChars indent) d := by
  -- what holds no other values is written the same in both ways
  induction h generalizing indent with
  | null => simpa only [prettyChars, renderChars] using WellFormed.null.reads
  | bool b => simpa only [prettyChars, renderChars] using (WellFormed.bool b).reads
  | number h =>
    rw [prettyChars]
    exact readsBack_number _ h
  | string s =>
    rw [prettyChars]
    exact readsBack_string _ s
  | @array depth items h ih =>
    cases items with
    | nil =>
      rw [prettyChars]
      have hnone : ∀ item ∈ ([] : List Document), ReadsBack (value? depth) (renderChars item) item := by
        simp
      exact ReadsBack.array isGap_nil isGap_nil hnone
    | cons item rest =>
      -- each element stands on a line of its own, one level further in
      rw [prettyChars, prettyItems_eq]
      exact ReadsBack.array (isGap_newline _) (isGap_newline _) fun item hitem =>
        ih item hitem (indent + 1)
  | @object depth members sorted h ih =>
    cases members with
    | nil =>
      rw [prettyChars]
      have hnone : ∀ member ∈ ([] : List (String × Document)),
          ReadsBack (value? depth) (renderChars member.2) member.2 := by simp
      exact ReadsBack.object isGap_nil isGap_nil isGap_nil sorted hnone
    | cons member rest =>
      have hspace : IsGap [' '] := by simp [IsGap, isSpace]
      rw [prettyChars, prettyMembers_eq]
      exact ReadsBack.object (isGap_newline _) (isGap_newline _) hspace sorted fun member hmember =>
        ih member hmember (indent + 1)

/-! ### Whole texts -/

theorem ofChars?_of_yields {text rest : List Char}
    (h : Yields (value? maxDepth (skipSpace text)) d rest) (hrest : skipSpace rest = []) :
    ofChars? text = some d := by
  obtain ⟨t, ht, rfl, rfl⟩ := h
  rw [ofChars?, ht]
  exact if_pos (by rw [hrest]; rfl)

theorem ofChars?_eq_none {text : List Char} (h : value? maxDepth (skipSpace text) = none) :
    ofChars? text = none := by
  rw [ofChars?, h]

theorem ofChars?_eq_some {written : List Char} (h : ReadsBack (value? maxDepth) written d) :
    ofChars? written = some d := by
  have hread : Yields (value? maxDepth (skipSpace written)) d [] := by
    have hskip := h.skipSpace_eq []
    have hwritten := h.reads [] ends_nil
    rw [List.append_nil] at hskip hwritten
    rwa [hskip]
  exact ofChars?_of_yields hread rfl

/-- **What is written without white space is read as that document.** -/
theorem ofText?_render (h : WellFormed maxDepth d) : ofText? d.render = some d := by
  rw [ofText?, render, String.toList_ofList]
  exact ofChars?_eq_some h.reads

/-- **What is written over several lines is read as that document.** -/
theorem ofText?_renderPretty (h : WellFormed maxDepth d) : ofText? d.renderPretty = some d := by
  rw [ofText?, renderPretty, String.toList_ofList]
  exact ofChars?_eq_some (h.readsPretty 0)

end Formulary.Document
