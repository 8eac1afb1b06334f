/-!
# Reading off the front of a sequence

A step of a reader takes something off the front of its input and hands on what is left. `Taken`
records that the rest is shorter, which is why loops over such steps end.
-/

namespace Formulary

/-- A value read off the front of `input`, with the shorter rest. -/
structure Taken {σ : Type} (α : Type) (input : List σ) where
  /-- What was read. -/
  value : α
  /-- What is left. -/
  rest : List σ
  /-- Something was taken. -/
  shorter : rest.length < input.length

namespace Taken

variable {σ α β : Type} {input : List σ}

/-- A value with a rest, if the rest is shorter. -/
def of? (input : List σ) (value : α) (rest : List σ) : Option (Taken α input) :=
  if shorter : rest.length < input.length then some ⟨value, rest, shorter⟩ else none

/-- Changes what was read. -/
def map (f : α → β) (t : Taken α input) : Taken β input := ⟨f t.value, t.rest, t.shorter⟩

/-- The same step, seen from a longer input. -/
def widen {longer : List σ} (t : Taken α input) (h : input.length ≤ longer.length) :
    Taken α longer :=
  ⟨t.value, t.rest, Nat.lt_of_lt_of_le t.shorter h⟩

/-- The part of the input that the value was read off. -/
def consumed (t : Taken α input) : List σ := input.take (input.length - t.rest.length)

@[simp] theorem value_map (f : α → β) (t : Taken α input) : (t.map f).value = f t.value := rfl

@[simp] theorem rest_map (f : α → β) (t : Taken α input) : (t.map f).rest = t.rest := rfl

@[simp] theorem value_widen {longer : List σ} (t : Taken α input) (h : input.length ≤ longer.length) :
    (t.widen h).value = t.value := rfl

@[simp] theorem rest_widen {longer : List σ} (t : Taken α input) (h : input.length ≤ longer.length) :
    (t.widen h).rest = t.rest := rfl

end Taken

theorem length_dropWhile_le {σ : Type} (p : σ → Bool) (l : List σ) :
    (l.dropWhile p).length ≤ l.length :=
  (List.dropWhile_suffix p).length_le

end Formulary
