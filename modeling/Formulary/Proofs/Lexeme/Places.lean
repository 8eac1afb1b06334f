import Formulary.Proofs.Lexeme.Extension

/-!
# Places in a text

Some faults of a text tell a position. `Fault.Stands` says what that is worth: behind as many bytes of the text,
there is what the fault is about. The faults that lexemes end in stand in the text, and so do the lexemes
themselves (`Lexemes.placed_ofCharsFrom`).

White space behind a text does not matter for what stands in it, and a text that stands behind another takes its
places along (`Fault.Stands.append`, `Fault.Stands.prepend`).
-/

namespace Formulary

/-! ### Positions -/

namespace SyntaxFault

/-- The position that a fault of structure tells. -/
def position : SyntaxFault → Nat
  | unsupportedOperator _ position => position
  | unexpectedChar _ position => position
  | invalidNumber _ position => position
  | missingVariableName position => position
  | unterminatedList position => position
  | unreadableList _ position => position
  | invalidList position _ => position
  | unexpected _ position => position
  | unclosed _ position => position

/-- The same fault, so many bytes later. -/
def shift (n : Nat) : SyntaxFault → SyntaxFault
  | unsupportedOperator c position => unsupportedOperator c (position + n)
  | unexpectedChar c position => unexpectedChar c (position + n)
  | invalidNumber text position => invalidNumber text (position + n)
  | missingVariableName position => missingVariableName (position + n)
  | unterminatedList position => unterminatedList (position + n)
  | unreadableList text position => unreadableList text (position + n)
  | invalidList position cause => invalidList (position + n) cause
  | unexpected found position => unexpected found (position + n)
  | unclosed found position => unclosed found (position + n)

end SyntaxFault

namespace Fault

/-- The position that a fault tells, if it tells one. -/
def position? : Fault → Option Nat
  | unbalancedParentheses position => some position
  | unterminatedString position => some position
  | malformed cause => some cause.position
  | _ => none

/-- The same fault, so many bytes later if it tells a position. -/
def shift (n : Nat) : Fault → Fault
  | unbalancedParentheses position => unbalancedParentheses (position + n)
  | unterminatedString position => unterminatedString (position + n)
  | malformed cause => malformed (cause.shift n)
  | fault => fault

/-- Only faults of structure tell positions. -/
theorem isSyntax_of_position? {fault : Fault} (h : fault.position?.isSome = true) : fault.isSyntax = true := by
  cases fault <;> first | rfl | contradiction

end Fault

/-! ### What is at a position -/

/-- A text starts with a lexeme, or there is nothing but white space in it. -/
def StartsWith (text : List Char) : Option Lexeme → Prop
  | none => ∀ c ∈ text, Text.isBlank c = true
  | some t => ∃ position taken, Lexeme.read position text = .ok (some taken) ∧ taken.value = t

/-- What a fault of structure is about is between what is before a place and what is behind it. Of half an operator
the place is the one behind it; all else starts at the place. -/
def SyntaxFault.PointsTo (before after : List Char) : SyntaxFault → Prop
  | unsupportedOperator c _ => before.getLast? = some c
  | unexpectedChar c _ => after.head? = some c
  | invalidNumber text _ => text.toList <+: after ∧ Lexeme.startsNumber after = true
  | missingVariableName _ => after.head? = some '$'
  | unterminatedList _ => after.head? = some '['
  | unreadableList text _ => text.toList <+: after ∧ after.head? = some '['
  | invalidList _ _ => after.head? = some '['
  | unexpected found _ => StartsWith after found
  | unclosed found _ => StartsWith after found

/-- What a fault is about is between what is before a place and what is behind it. -/
def Fault.PointsTo (before after : List Char) : Fault → Prop
  | unbalancedParentheses _ => after.head? = some '(' ∨ after.head? = some ')'
  | unterminatedString _ => after.head? = some '"' ∨ after.head? = some '\''
  | malformed cause => cause.PointsTo before after
  | _ => True

section

variable {before after blanks : List Char} (hblanks : ∀ c ∈ blanks, Text.isBlank c = true)

include hblanks in
theorem StartsWith.append {found : Option Lexeme} (h : StartsWith after found) :
    StartsWith (after ++ blanks) found := by
  cases found with
  | none => exact List.forall_mem_append.mpr ⟨h, hblanks⟩
  | some t =>
    obtain ⟨position, taken, hread, hvalue⟩ := h
    obtain ⟨taken', hread', hextends⟩ := Lexeme.read_append (.of_blank hblanks) hread position
    exact ⟨position, taken', hread', hextends.value.trans hvalue⟩

theorem head?_append_eq_some {c : Char} (h : after.head? = some c) (more : List Char) :
    (after ++ more).head? = some c := by
  rw [List.head?_append, h]
  rfl

include hblanks in
theorem SyntaxFault.PointsTo.append {cause : SyntaxFault} (h : cause.PointsTo before after) :
    cause.PointsTo before (after ++ blanks) := by
  cases cause with
  | unsupportedOperator c position => exact h
  | unexpected found position => exact StartsWith.append hblanks h
  | unclosed found position => exact StartsWith.append hblanks h
  | invalidNumber text position =>
    obtain ⟨htext, hnumber⟩ := h
    refine ⟨htext.trans (List.prefix_append after blanks), ?_⟩
    -- the text starts with a number, so there is a character that tells it from what follows
    cases after with
    | nil => contradiction
    | cons c after => rwa [List.cons_append, Lexeme.startsNumber_of_shuts (.of_blank hblanks)]
  | unreadableList text position =>
    obtain ⟨htext, hbracket⟩ := h
    exact ⟨htext.trans (List.prefix_append after blanks), head?_append_eq_some hbracket blanks⟩
  | _ => exact head?_append_eq_some h blanks

include hblanks in
/-- White space behind the text changes nothing. -/
theorem Fault.PointsTo.append {fault : Fault} (h : fault.PointsTo before after) :
    fault.PointsTo before (after ++ blanks) := by
  cases fault with
  | unbalancedParentheses position =>
    exact h.imp (head?_append_eq_some · blanks) (head?_append_eq_some · blanks)
  | unterminatedString position =>
    exact h.imp (head?_append_eq_some · blanks) (head?_append_eq_some · blanks)
  | malformed cause => exact SyntaxFault.PointsTo.append hblanks h
  | _ => trivial

omit hblanks in
/-- Nor does what is before it. -/
theorem Fault.PointsTo.prepend {fault : Fault} (h : fault.PointsTo before after) (front : List Char) :
    fault.PointsTo (front ++ before) after := by
  cases fault with
  | malformed cause =>
    cases cause with
    | unsupportedOperator c position =>
      change (front ++ before).getLast? = some c
      rw [List.getLast?_append, show before.getLast? = some c from h]
      rfl
    | _ => exact h
  | _ => exact h

end

namespace Fault

/-- If a fault tells a position, there is what it is about, in a text that begins at the position `base`. -/
def Stands (fault : Fault) (base : Nat) (text : List Char) : Prop :=
  ∀ p, fault.position? = some p → ∃ before after, text = before ++ after ∧
    p = base + Text.byteLength before ∧ fault.PointsTo before after

variable {fault : Fault} {text : List Char} {base : Nat}

theorem stands_of_position? (h : fault.position? = none) (base : Nat) (text : List Char) :
    fault.Stands base text := fun p hp => by simp [h] at hp

/-- What a text starts with stands at its beginning. -/
theorem stands_here (hposition : fault.position? = some base) (h : fault.PointsTo [] text) :
    fault.Stands base text := by
  intro p hp
  obtain rfl := Option.some.inj (hposition.symm.trans hp)
  exact ⟨[], text, rfl, rfl, h⟩

theorem Stands.append (h : fault.Stands base text) {blanks : List Char}
    (hblanks : ∀ c ∈ blanks, Text.isBlank c = true) : fault.Stands base (text ++ blanks) := by
  intro p hp
  obtain ⟨before, after, rfl, hposition, hpoints⟩ := h p hp
  exact ⟨before, after ++ blanks, List.append_assoc _ _ _, hposition, hpoints.append hblanks⟩

theorem Stands.prepend {front : List Char} (h : fault.Stands (base + Text.byteLength front) text) :
    fault.Stands base (front ++ text) := by
  intro p hp
  obtain ⟨before, after, rfl, hposition, hpoints⟩ := h p hp
  refine ⟨front ++ before, after, (List.append_assoc _ _ _).symm, ?_, hpoints.prepend front⟩
  rw [hposition, Text.byteLength_append, Nat.add_assoc]

end Fault

/-! ### Lexemes in their places -/

namespace Lexeme

/-- The fault tells a position, and stands in the text that begins at `base`. -/
def IsPlaced (base : Nat) (text : List Char) (fault : Fault) : Prop :=
  fault.position?.isSome = true ∧ fault.Stands base text

variable {position : Nat} {text : List Char}

theorem number?_placed (h : startsNumber text = true) :
    FailsWith (IsPlaced position text) (number? position text) := by
  unfold number?
  dsimp only
  split
  · refine .error ⟨rfl, Fault.stands_here rfl ⟨?_, h⟩⟩
    rw [String.toList_ofList]
    exact List.take_prefix _ _
  · exact .ok _

theorem marked_placed (position : Nat) (rest : List Char) :
    FailsWith (IsPlaced position ('$' :: rest)) (marked position rest) :=
  .ite (.error ⟨rfl, Fault.stands_here rfl rfl⟩) (.ok _)

theorem bracketed_placed (h : text.head? = some '[') :
    FailsWith (IsPlaced position text) (bracketed position text) := by
  -- the list stands where its bracket does, whether it ends, is read or is refused
  have hlist (inner : List Char) (hinner : inner <+: text) :
      FailsWith (IsPlaced position text) (optionList position inner) := by
    rw [optionList]
    split
    · refine .error ⟨rfl, Fault.stands_here rfl ⟨?_, h⟩⟩
      rwa [String.toList_ofList]
    · split
      · exact .ok _
      · exact .error ⟨rfl, Fault.stands_here rfl h⟩
  rw [bracketed]
  split
  · exact .error ⟨rfl, Fault.stands_here rfl h⟩
  · exact (hlist _ (List.take_prefix _ _)).map _

/-- A lexeme that cannot be read is a fault that stands where the lexeme does. -/
theorem read_placed (position : Nat) (text : List Char) :
    FailsWith (IsPlaced position text) (read position text) := by
  unfold read
  split
  · exact .ok _
  · exact (marked_placed _ _).map _
  · next c rest _ =>
    -- the tests in the order of the reader
    split
    · exact .ok _
    split
    · -- half of an operator is pointed to from behind
      refine .error ⟨rfl, fun p hp => ⟨[c], rest, rfl, ?_, rfl⟩⟩
      exact (Option.some.inj hp).symm
    split
    · next hquote =>
      split
      · refine .error ⟨rfl, Fault.stands_here rfl ?_⟩
        exact hquote.imp (congrArg some) (congrArg some)
      · exact .ok _
    split
    · next hbracket =>
      have hplaced : FailsWith (IsPlaced position (c :: rest)) _ := bracketed_placed (congrArg some hbracket)
      exact hplaced.map _
    split
    · next hnumber => exact number?_placed hnumber
    · exact .ite (.ok _) (.ok _)

end Lexeme

/-- The lexemes of a text that begins at the position `base` stand in their places, and what follows them does. -/
structure Lexemes.Placed (lexemes : Lexemes) (base : Nat) (text : List Char) : Prop where
  /-- Each lexeme stands where it says. -/
  items : ∀ item ∈ lexemes.items, ∃ before after, text = before ++ after ∧
    item.position = base + Text.byteLength before ∧ StartsWith after (some item.lexeme)
  /-- The text ends where it says. -/
  finished : ∀ last, lexemes.ending = .finished last → last = base + Text.byteLength text
  /-- What is no lexeme stands where it says. -/
  faulty : ∀ fault, lexemes.ending = .faulty fault → Lexeme.IsPlaced base text fault

namespace Lexemes

theorem Placed.prepend {lexemes : Lexemes} {base : Nat} {front text : List Char}
    (h : lexemes.Placed (base + Text.byteLength front) text) : lexemes.Placed base (front ++ text) := by
  refine ⟨fun item hitem => ?_, fun last hlast => ?_, fun fault hfault => ?_⟩
  · obtain ⟨before, after, rfl, hposition, hstarts⟩ := h.items item hitem
    refine ⟨front ++ before, after, (List.append_assoc _ _ _).symm, ?_, hstarts⟩
    rw [hposition, Text.byteLength_append, Nat.add_assoc]
  · rw [h.finished last hlast, Text.byteLength_append, Nat.add_assoc]
  · exact ⟨(h.faulty fault hfault).1, (h.faulty fault hfault).2.prepend⟩

theorem placed_of_fault {fault : Fault} {base : Nat} {text : List Char}
    (h : Lexeme.IsPlaced base text fault) : (⟨[], .faulty fault⟩ : Lexemes).Placed base text := by
  refine ⟨by simp, by simp, fun fault' hfault => ?_⟩
  obtain rfl := Ending.faulty.inj hfault
  exact h

/-- **Positions of lexemes count the bytes of the text.** -/
theorem placed_ofCharsFrom (position : Nat) (text : List Char) :
    (ofCharsFrom position text).Placed position text := by
  -- in front of every lexeme there may be white space
  have hblanks {lexemes : Lexemes} {text : List Char} {position : Nat}
      (h : lexemes.Placed (position + Text.byteLength (text.takeWhile Text.isBlank))
        (text.dropWhile Text.isBlank)) : lexemes.Placed position text := by
    have hall := h.prepend
    rwa [List.takeWhile_append_dropWhile] at hall
  fun_induction ofCharsFrom position text with
  | case1 position text start hblank =>
    refine hblanks ⟨by simp, fun last hlast => ?_, by simp⟩
    rw [hblank]
    exact (Ending.finished.inj hlast).symm
  | case2 position text start c left hleft fault hread =>
    refine hblanks (placed_of_fault ?_)
    rw [hleft]
    exact Lexeme.read_placed _ _ fault hread
  | case3 position text start c left hleft hread =>
    refine hblanks (placed_of_fault ?_)
    rw [hleft]
    exact ⟨rfl, Fault.stands_here rfl rfl⟩
  | case4 position text start c left hleft t hread others ih =>
    refine hblanks ?_
    rw [hleft]
    -- the rest begins as many bytes later as the lexeme took
    obtain ⟨written, hwritten, -⟩ := Lexeme.read_eq_ok hread
    have hconsumed : t.consumed = written := Taken.consumed_eq hwritten
    have hothers : others.Placed start (written ++ t.rest) := .prepend (by rwa [← hconsumed])
    rw [← hwritten] at hothers
    refine ⟨List.forall_mem_cons.mpr ⟨?_, hothers.items⟩, hothers.finished, hothers.faulty⟩
    exact ⟨[], c :: left, rfl, rfl, start, t, hread, rfl⟩

end Lexemes

end Formulary
