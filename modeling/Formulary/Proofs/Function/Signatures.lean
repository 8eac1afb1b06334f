import Formulary.Proofs.Evaluation.Faults

/-!
# Signatures are honoured

What a definition says of a function and what stands behind it are written apart: how many arguments the function
takes, what it wants at each position, and what it yields. For every function that there is the two agree
(`Builtin.honours`), and so a call with as many arguments as the definition accepts yields what it says, and no
function of values finds an argument missing or of another kind than it wants, once all are coerced
(`Definition.covers_of_coerceAll`). What is left are the faults of coercion itself, of which the leftmost is that
of the call (`Definition.coerceAll_eq_error_iff`), and the faults of the use of values
(`Builtin.signature_honoured`).
-/

namespace Formulary

/-- Whether a fault says that an argument is of another kind than wanted, or missing. -/
def Fault.isMismatch : Fault → Bool
  | typeMismatch _ _ _ _ => true
  | _ => false

theorem Fault.isMismatch_of_isOfUse {fault : Fault} (h : fault.isOfUse = true) : fault.isMismatch = false := by
  cases fault <;> first | rfl | contradiction

/-! ### Coercion of all arguments -/

namespace Definition

variable {d : Definition} {arguments coerced : List Value} {fault : Fault}

/-- From the left, the first of the arguments from a position on that cannot be coerced fails with the fault. -/
def FailsFirst (d : Definition) (position : Nat) (arguments : List Value) (fault : Fault) : Prop :=
  ∃ (i : Nat) (v : Value), arguments[i]? = some v ∧
    v.coerce d.name (position + i) (d.kindAt (position + i)) = .error fault ∧
    ∀ j < i, ∀ w : Value, arguments[j]? = some w →
      ∃ coerced, w.coerce d.name (position + j) (d.kindAt (position + j)) = .ok coerced

theorem not_failsFirst_nil {position : Nat} : ¬d.FailsFirst position [] fault := by
  rintro ⟨i, v, hv, -⟩
  contradiction

theorem failsFirst_cons_error {position : Nat} {v : Value} {rest : List Value} {first : Fault}
    (h : v.coerce d.name position (d.kindAt position) = .error first) :
    d.FailsFirst position (v :: rest) fault ↔ first = fault := by
  constructor
  · rintro ⟨i, w, hw, hfault, hbefore⟩
    cases i with
    | zero =>
      obtain rfl : v = w := Option.some.inj hw
      exact Except.error.inj (h.symm.trans hfault)
    -- a later argument does not count: the first one would have to be coerced
    | succ i =>
      obtain ⟨coerced, hcoerced⟩ := hbefore 0 (Nat.succ_pos i) v rfl
      exact absurd (h.symm.trans hcoerced) nofun
  · rintro rfl
    exact ⟨0, v, rfl, h, fun j hj => absurd hj (Nat.not_lt_zero j)⟩

theorem failsFirst_cons_ok {position : Nat} {v first : Value} {rest : List Value}
    (h : v.coerce d.name position (d.kindAt position) = .ok first) :
    d.FailsFirst position (v :: rest) fault ↔ d.FailsFirst (position + 1) rest fault := by
  -- a place in the rest is one place later in all arguments
  have hshift (i : Nat) : position + (i + 1) = position + 1 + i := by omega
  constructor
  · rintro ⟨i, w, hw, hfault, hbefore⟩
    cases i with
    | zero =>
      obtain rfl : v = w := Option.some.inj hw
      exact absurd (h.symm.trans hfault) nofun
    | succ i =>
      rw [hshift] at hfault
      refine ⟨i, w, hw, hfault, fun j hj u hu => ?_⟩
      rw [← hshift]
      exact hbefore (j + 1) (Nat.succ_lt_succ hj) u hu
  · rintro ⟨i, w, hw, hfault, hbefore⟩
    rw [← hshift] at hfault
    refine ⟨i + 1, w, hw, hfault, fun j hj u hu => ?_⟩
    -- before the place in question stands the first argument too, which has been coerced
    cases j with
    | zero =>
      obtain rfl : v = u := Option.some.inj hu
      exact ⟨first, h⟩
    | succ j =>
      have hlater := hbefore j (Nat.lt_of_succ_lt_succ hj) u hu
      rwa [← hshift] at hlater

theorem coerceFrom_eq_error_iff {position : Nat} :
    d.coerceFrom position arguments = .error fault ↔ d.FailsFirst position arguments fault := by
  induction arguments generalizing position with
  | nil => exact iff_of_false nofun not_failsFirst_nil
  | cons v rest ih =>
    rw [coerceFrom]
    cases hfirst : v.coerce d.name position (d.kindAt position) with
    | error first => rw [failsFirst_cons_error hfirst, error_bind, Except.error.injEq]
    | ok first =>
      rw [failsFirst_cons_ok hfirst, ← ih, ok_bind]
      cases d.coerceFrom (position + 1) rest with
      | error _ => exact Iff.rfl
      | ok _ => exact iff_of_false nofun nofun

/-- The fault of coercing all arguments is that of the leftmost that cannot be coerced. -/
theorem coerceAll_eq_error_iff :
    d.coerceAll arguments = .error fault ↔ ∃ (i : Nat) (v : Value), arguments[i]? = some v ∧
      v.coerce d.name i (d.kindAt i) = .error fault ∧ ∀ j < i, ∀ w : Value, arguments[j]? = some w →
        ∃ coerced, w.coerce d.name j (d.kindAt j) = .ok coerced := by
  rw [coerceAll, coerceFrom_eq_error_iff]
  simp only [FailsFirst, Nat.zero_add]

theorem coerceFrom_eq_ok {position : Nat} (h : d.coerceFrom position arguments = .ok coerced) :
    coerced.length = arguments.length ∧
      ∀ i v, coerced[i]? = some v → (d.kindAt (position + i)).Admits v := by
  induction arguments generalizing position coerced with
  | nil =>
    obtain rfl := Except.ok.inj h
    exact ⟨rfl, fun _ _ hv => nomatch hv⟩
  | cons w rest ih =>
    -- the first is coerced to a value of its kind, and the rest one place later
    obtain ⟨first, hfirst, h⟩ := bind_eq_ok_iff.mp h
    obtain ⟨later, hlater, h⟩ := bind_eq_ok_iff.mp h
    obtain rfl := Except.ok.inj h
    obtain ⟨hlength, hadmits⟩ := ih hlater
    refine ⟨congrArg Nat.succ hlength, fun i v hv => ?_⟩
    cases i with
    | zero =>
      obtain rfl : first = v := Option.some.inj hv
      exact (Value.coerce_ends _ _ _ _).yields _ hfirst
    | succ i =>
      have hshift : position + (i + 1) = position + 1 + i := by omega
      rw [hshift]
      exact hadmits i v hv

/-- Coercion leaves as many arguments as there were, each admitted where it stands. -/
theorem coerceAll_eq_ok (h : d.coerceAll arguments = .ok coerced) :
    coerced.length = arguments.length ∧ ∀ i v, coerced[i]? = some v → (d.kindAt i).Admits v := by
  simpa only [Nat.zero_add] using coerceFrom_eq_ok h

end Definition

/-! ### What is defined and what is used -/

/-- What a function yields that looks at its arguments one by one. -/
def Lazy.yields : Lazy → ArgumentKind
  | .ifElse => .any
  | .and | .or | .isNull => .only .boolean

theorem Lazy.apply_yields {f : Lazy} {operands : List Operand} {v : Value} (h : f.apply operands = .ok v) :
    f.yields.Admits v := by
  cases f with
  | ifElse => trivial
  | and | or | isNull =>
    obtain ⟨b, -, rfl⟩ := map_eq_ok_iff.mp h
    rfl

/-- What stands behind a definition uses the arguments as the definition says, and yields what it says. -/
def Handler.Honours (d : Definition) : Handler → Prop
  | .eager f =>
    (d.kinds.take f.usage.fixed.length = f.usage.fixed.map .only ∧ f.usage.fixed.length ≤ d.least) ∧
    (∀ kind ∈ f.usage.further, d.kinds.drop f.usage.fixed.length ≠ [] ∧
      ∀ wanted ∈ d.kinds.drop f.usage.fixed.length, wanted = .only kind) ∧
    (f.usage.least ≤ d.least ∧ ∀ most ∈ f.usage.most, d.most = some most) ∧
    d.returns = f.usage.yields
  | .lazy f => d.returns = f.yields
  | .external => True

instance (d : Definition) : (handler : Handler) → Decidable (handler.Honours d)
  | .eager _ => inferInstanceAs (Decidable ((_ ∧ _) ∧ _ ∧ (_ ∧ _) ∧ _))
  | .lazy _ => inferInstanceAs (Decidable (_ = _))
  | .external => inferInstanceAs (Decidable True)

namespace Handler.Honours

variable {d : Definition} {v : Value}

theorem eager_yields {f : Eager} (h : (Handler.eager f).Honours d) {clock : DateTime} {arguments : List Value}
    (hv : f.apply clock arguments = .ok v) : d.returns.Admits v := by
  obtain ⟨-, -, -, hreturns⟩ := h
  rw [hreturns]
  exact Eager.apply_yields hv

theorem lazy_yields {f : Lazy} (h : (Handler.lazy f).Honours d) {operands : List Operand}
    (hv : f.apply operands = .ok v) : d.returns.Admits v := by
  have hreturns : d.returns = f.yields := h
  rw [hreturns]
  exact Lazy.apply_yields hv

end Handler.Honours

/-- Every function there is uses its arguments as its definition says. -/
theorem Builtin.honours {d : Definition} (h : d ∈ Builtin.all) : d.handler.Honours d := by
  -- the definitions and what stands behind them are finitely many, and agreement is decided
  have hall : ∀ d ∈ Builtin.all, d.handler.Honours d := by decide
  exact hall d h

namespace Definition

variable {d : Definition} {arguments coerced : List Value} {fault : Fault} {f : Eager} {position : Nat}
  {kind : ValueKind}

theorem kindAt_of_fixed (h : (Handler.eager f).Honours d) (hfixed : f.usage.fixed[position]? = some kind) :
    d.kindAt position = .only kind ∧ position < d.least := by
  obtain ⟨⟨hkinds, hleast⟩, -⟩ := h
  have hlt : position < f.usage.fixed.length := (List.getElem?_eq_some_iff.mp hfixed).1
  have hwanted : d.kinds[position]? = some (.only kind) := by
    rw [← List.getElem?_take_of_lt hlt, hkinds, List.getElem?_map, hfixed]
    rfl
  exact ⟨by rw [kindAt, hwanted, Option.some_or, Option.getD_some], Nat.lt_of_lt_of_le hlt hleast⟩

theorem kindAt_of_further (h : (Handler.eager f).Honours d) (hfurther : f.usage.further = some kind)
    (hposition : f.usage.fixed.length ≤ position) : d.kindAt position = .only kind := by
  obtain ⟨hne, hall⟩ := h.2.1 kind hfurther
  rw [kindAt]
  cases hwanted : d.kinds[position]? with
  | some wanted =>
    have hmem : wanted ∈ d.kinds.drop f.usage.fixed.length := by
      refine List.mem_of_getElem? (i := position - f.usage.fixed.length) ?_
      rw [List.getElem?_drop, Nat.add_sub_cancel' hposition, hwanted]
    rw [Option.some_or, Option.getD_some, hall wanted hmem]
  | none =>
    -- behind the last kind the last one counts
    have hlast : d.kinds.getLast? = (d.kinds.drop f.usage.fixed.length).getLast? := by
      rw [List.getLast?_drop, if_neg fun hle => hne (List.drop_eq_nil_iff.mpr hle)]
    rw [Option.none_or, hlast, List.getLast?_eq_some_getLast hne, Option.getD_some,
      hall _ (List.getLast_mem hne)]

/-- **Coerced arguments are what the function wants**, if there are as many as the definition accepts: it fails
with them for the use of their values only, or because two of them have no order. -/
theorem covers_of_coerceAll (h : (Handler.eager f).Honours d) (haccepts : d.Accepts arguments.length)
    (hcoerced : d.coerceAll arguments = .ok coerced) :
    f.Covers coerced fun fault => fault.isOfUse = true ∨
      (f = .greaterThan ∨ f = .lessThan) ∧
        ∃ function a b, coerced = [a, b] ∧ a.compare function b = .error fault := by
  obtain ⟨hlength, hadmits⟩ := coerceAll_eq_ok hcoerced
  have hgiven {position : Nat} {kind : ValueKind} (hlt : position < coerced.length)
      (hkind : d.kindAt position = .only kind) :
      ∃ v, coerced[position]? = some v ∧ v.kind = kind := by
    refine ⟨coerced[position], List.getElem?_eq_getElem hlt, ?_⟩
    have hadmitted := hadmits position _ (List.getElem?_eq_getElem hlt)
    rwa [hkind] at hadmitted
  constructor
  case use => exact fun _ huse => Or.inl huse
  case fixed =>
    -- what is taken anyway is there, because the definition asks for as many
    intro position kind hfixed
    obtain ⟨hkind, hlt⟩ := kindAt_of_fixed h hfixed
    exact Or.inl (hgiven (hlength ▸ Nat.lt_of_lt_of_le hlt haccepts.1) hkind)
  case further =>
    intro kind hfurther position hlt hposition
    exact Or.inl (hgiven hlt (kindAt_of_further h hfurther hposition))
  case count =>
    obtain ⟨-, -, ⟨hleast, hmost⟩, -⟩ := h
    rw [hlength]
    exact Or.inl ⟨Nat.le_trans hleast haccepts.1, fun most hmem => haccepts.2 most (hmost most hmem)⟩
  case order =>
    intro horder function a b hab fault hfault
    exact Or.inr ⟨horder, function, a, b, hab, hfault⟩

end Definition

/-! ### Calls -/

namespace Context

variable {c : Context} {d : Definition} {v : Value}

/-- What a function yields for values is what its definition says. -/
theorem apply_yields (h : d.handler.Honours d) {arguments : List Value} (hv : c.apply d arguments = .ok v) :
    d.returns.Admits v := by
  rw [apply] at hv
  split at hv
  · next f hf =>
    rw [hf] at h
    obtain ⟨coerced, -, happly⟩ := bind_eq_ok_iff.mp hv
    exact h.eager_yields happly
  · next f hf =>
    rw [hf] at h
    exact h.lazy_yields hv
  · contradiction

/-- So is what a call yields. -/
theorem evaluate_yields (h : d.handler.Honours d) {name : String} {arguments : List Expression}
    (hfind : c.registry.find? name = some d) (hv : c.evaluate (.call name arguments) = .ok v) :
    d.returns.Admits v := by
  rw [evaluate] at hv
  obtain ⟨found, hresolve, hv⟩ := bind_eq_ok_iff.mp hv
  obtain rfl : d = found := Option.some.inj (hfind.symm.trans (resolve_eq_ok hresolve).1)
  split at hv
  · next f hf =>
    -- the values of the arguments, then these coerced, then what the function makes of them
    rw [hf] at h
    obtain ⟨values, -, hv⟩ := bind_eq_ok_iff.mp hv
    obtain ⟨coerced, -, happly⟩ := bind_eq_ok_iff.mp hv
    exact h.eager_yields happly
  · next f hf =>
    rw [hf] at h
    exact h.lazy_yields hv
  · contradiction

end Context

/-- **Signatures are honoured.** Whatever a function that there is yields, for values or for expressions, is of
the kind that its definition says. Given as many values as it accepts, a function of values that asks for no order
finds an argument of another kind than wanted exactly if the leftmost that cannot be coerced fails so; and once all
are coerced, nothing is missing or of another kind: what is left are faults of the use of values, or that two of
them have no order. -/
theorem Builtin.signature_honoured {d : Definition} (hd : d ∈ Builtin.all) (c : Context) :
    (∀ arguments v, c.apply d arguments = .ok v → d.returns.Admits v) ∧
    (∀ name arguments v, c.registry.find? name = some d → c.evaluate (.call name arguments) = .ok v →
      d.returns.Admits v) ∧
    ∀ f, d.handler = .eager f → ∀ arguments, d.Accepts arguments.length →
      (f ≠ .greaterThan → f ≠ .lessThan → ∀ fault, fault.isMismatch = true →
        (c.apply d arguments = .error fault ↔ ∃ (i : Nat) (v : Value), arguments[i]? = some v ∧
          v.coerce d.name i (d.kindAt i) = .error fault ∧ ∀ j < i, ∀ w : Value, arguments[j]? = some w →
            ∃ coerced, w.coerce d.name j (d.kindAt j) = .ok coerced)) ∧
      ∀ coerced, d.coerceAll arguments = .ok coerced → ∀ fault, f.apply c.now coerced = .error fault →
        fault.isOfUse = true ∨ (f = .greaterThan ∨ f = .lessThan) ∧
          ∃ function a b, coerced = [a, b] ∧ a.compare function b = .error fault := by
  have hhonours := honours hd
  refine ⟨fun _ _ => Context.apply_yields hhonours, fun _ _ _ => Context.evaluate_yields hhonours, ?_⟩
  intro f hf arguments haccepts
  rw [hf] at hhonours
  -- once all arguments are coerced only the faults that these leave can come
  have hafter : ∀ coerced, d.coerceAll arguments = .ok coerced → ∀ fault,
      f.apply c.now coerced = .error fault → fault.isOfUse = true ∨ (f = .greaterThan ∨ f = .lessThan) ∧
        ∃ function a b, coerced = [a, b] ∧ a.compare function b = .error fault := fun coerced hcoerced =>
    (Eager.apply_ends (d.covers_of_coerceAll hhonours haccepts hcoerced) c.now).fails
  refine ⟨fun hgreater hless fault hmismatch => ?_, hafter⟩
  rw [← Definition.coerceAll_eq_error_iff, Context.apply, hf]
  dsimp only
  cases hcoerced : d.coerceAll arguments with
  | error other => rw [error_bind, Except.error.injEq, Except.error.injEq]
  | ok coerced =>
    -- the function itself does not fail so
    refine iff_of_false (fun hfault => ?_) nofun
    rcases hafter coerced hcoerced fault hfault with huse | ⟨horder, -⟩
    · exact absurd hmismatch (by simp [Fault.isMismatch_of_isOfUse huse])
    · exact horder.elim hgreater hless

/-- A truth value cannot be the number of characters that `SUBSTRING` takes; where there are none to take but from
a start on, it yields a text. -/
theorem Builtin.signature_honoured_substring :
    ∃ d ∈ Builtin.all, d.name = "SUBSTRING" ∧ d.Accepts 3 ∧
      Context.apply { data := .empty, now := .origin } d
          [.string "form", .number .one, .boolean true] =
        .error (.typeMismatch "SUBSTRING" 3 .number (some .boolean)) ∧
      ∃ v, Context.evaluate { data := .empty, now := .origin }
          (.call "SUBSTRING" [.literal (.string "form"), .literal (.number .one)]) = .ok v ∧
        v.kind = .string := by
  have hd : Builtin.text[6] ∈ Builtin.all := by decide
  obtain ⟨-, hcall, heager⟩ := signature_honoured hd { data := .empty, now := .origin }
  have harguments := (heager .substring rfl [.string "form", .number .one, .boolean true] (by decide)).1
    nofun nofun (.typeMismatch "SUBSTRING" 3 .number (some .boolean)) rfl
  refine ⟨Builtin.text[6], hd, rfl, by decide, harguments.mpr ⟨2, .boolean true, rfl, rfl, ?_⟩, ?_⟩
  · intro j hj w hw
    -- the two arguments before are of the kinds wanted
    have hcases : j = 0 ∨ j = 1 := by omega
    rcases hcases with rfl | rfl
    · obtain rfl : Value.string "form" = w := Option.some.inj hw
      exact ⟨_, rfl⟩
    · obtain rfl : Value.number .one = w := Option.some.inj hw
      exact ⟨_, rfl⟩
  · have hvalue : Context.evaluate { data := .empty, now := .origin }
        (.call "SUBSTRING" [.literal (.string "form"), .literal (.number .one)]) = .ok (.string "orm") := by
      rw [show "SUBSTRING" = Builtin.text[6].name from rfl,
        Context.evaluate_builtin rfl hd rfl rfl (by decide),
        Context.evaluateAll_two (Context.evaluate.eq_1 _ _) (Context.evaluate.eq_1 _ _)]
      rfl
    exact ⟨_, hvalue, hcall _ _ _ (Registry.find?_builtin_of_mem hd) hvalue⟩

end Formulary
