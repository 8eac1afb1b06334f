import Mathlib.Data.List.Basic
import Formulary.Function.Handler
import Formulary.Proofs.Outcome

/-!
# What functions of values end in

A function of values takes its arguments by their positions, each as a value of one kind, and some ask for a
certain number of them; what it yields is of one kind too, whatever the arguments are (`Eager.usage`). Where it has
the arguments that it wants, it fails for the use that it makes of their values only (`Fault.isOfUse`), or because
two values have no order.

Each function is gone through once, for any kind `P` of fault that covers all of this (`Eager.apply_ends`). What
`P` has to cover depends on the arguments: an argument that is there, and of the kind wanted, cannot be missed
(`Argument.Given`).
-/

namespace Formulary

/-- What is admitted where a kind of value, or any, is wanted. -/
def ArgumentKind.Admits : ArgumentKind → Value → Prop
  | any, _ => True
  | only kind, v => v.kind = kind

/-- Whether something is wrong with the number of arguments. -/
def ArgumentFault.isOfCount : ArgumentFault → Bool
  | noArguments => true
  | notTwoValues => true
  | missingOptions => true
  | missingTarget => true
  | _ => false

/-- Whether a fault lies in the use of values that are of the kinds wanted. -/
def Fault.isOfUse : Fault → Bool
  | divisionByZero => true
  | numericOverflow _ => true
  | invalidArgument _ cause => !cause.isOfCount
  | _ => false

variable {P : Fault → Prop} {function : String} {arguments : List Value} {position : Nat}
  {kind : ValueKind}

/-- The outcome is a value of one kind, or a fault of the kind `P`. -/
abbrev EndsIn (P : Fault → Prop) (kind : ValueKind) : Except Fault Value → Prop :=
  Ends P fun v => v.kind = kind

/-! ### Arguments -/

namespace Argument

/-- At a position there is an argument of a kind, or `P` covers that there is none. -/
def Given (P : Fault → Prop) (arguments : List Value) (position : Nat) (kind : ValueKind) : Prop :=
  (∃ v, arguments[position]? = some v ∧ v.kind = kind) ∨
    ∀ function found, P (mismatch function position kind found)

theorem Given.mismatch (h : Given P arguments position kind)
    (hmissed : ∀ v, arguments[position]? = some v → v.kind ≠ kind) (found : Option Value) :
    P (Argument.mismatch function position kind found) := by
  rcases h with ⟨v, hv, hkind⟩ | hcovers
  · exact absurd hkind (hmissed v hv)
  · exact hcovers _ _

theorem number_failsWith (h : Given P arguments position .number) :
    FailsWith P (number function arguments position) := by
  rw [number]
  split
  · exact .ok _
  · next hother =>
    refine .error (h.mismatch (fun v hv => ?_) _)
    cases v <;> first | exact absurd hv (hother _) | exact nofun

theorem boolean_failsWith (h : Given P arguments position .boolean) :
    FailsWith P (boolean function arguments position) := by
  rw [boolean]
  split
  · exact .ok _
  · next hother =>
    refine .error (h.mismatch (fun v hv => ?_) _)
    cases v <;> first | exact absurd hv (hother _) | exact nofun

theorem string_failsWith (h : Given P arguments position .string) :
    FailsWith P (string function arguments position) := by
  rw [string]
  split
  · exact .ok _
  · next hother =>
    refine .error (h.mismatch (fun v hv => ?_) _)
    cases v <;> first | exact absurd hv (hother _) | exact nofun

theorem dateTime_failsWith (h : Given P arguments position .dateTime) :
    FailsWith P (dateTime function arguments position) := by
  rw [dateTime]
  split
  · exact .ok _
  · next hother =>
    refine .error (h.mismatch (fun v hv => ?_) _)
    cases v <;> first | exact absurd hv (hother _) | exact nofun

/-- Arguments taken one after the other leave an accumulator of which `Q` holds, if each step does, unless there
are none. -/
theorem foldNumbers_ends {α : Type} {step : α → Decimal → Except Fault α} {Q : α → Prop}
    (hgiven : ∀ i < arguments.length, Given P arguments i .number)
    (hstep : ∀ a n, Ends P Q (step a n)) {acc : α} (hacc : position < arguments.length ∨ Q acc) :
    Ends P Q (foldNumbers function step position acc arguments) := by
  fun_induction foldNumbers function step position acc arguments with
  | case1 position acc hlt ih =>
    -- behind a step there need be no argument any more
    refine .bind (number_failsWith (hgiven position hlt)) fun n _ => ?_
    exact .andThen (hstep acc n) fun a ha => ih a (Or.inr ha)
  | case2 position acc hle => exact .ok (hacc.resolve_left hle)

end Argument

open Argument

section Functions

variable (huse : ∀ fault, fault.isOfUse = true → P fault)
include huse

theorem Argument.integer_failsWith (h : Given P arguments position .number) :
    FailsWith P (integer function arguments position) := by
  refine (number_failsWith h).bind fun n _ => ?_
  split
  · exact .error (huse _ rfl)
  · exact .ite (.ok _) (.error (huse _ rfl))

/-! ### Arithmetic -/

namespace Arithmetic

theorem orOverflow_ends (result : Option Decimal) : Ends P (fun _ => True) (orOverflow function result) := by
  cases result with
  | none => exact .error (huse _ rfl)
  | some n => exact .ok trivial

theorem add_ends (h : ∀ i < arguments.length, Given P arguments i .number) :
    EndsIn P .number (add arguments) :=
  .andThen (foldNumbers_ends h (fun _ _ => orOverflow_ends huse _) (Or.inr trivial)) fun _ _ => .ok rfl

theorem subtract_ends (h₀ : Given P arguments 0 .number) (h₁ : Given P arguments 1 .number) :
    EndsIn P .number (subtract arguments) :=
  .bind (number_failsWith h₀) fun _ _ => .bind (number_failsWith h₁) fun _ _ =>
    .andThen (orOverflow_ends huse _) fun _ _ => .ok rfl

theorem multiply_ends (h : ∀ i < arguments.length, Given P arguments i .number) :
    EndsIn P .number (multiply arguments) :=
  .andThen (foldNumbers_ends h (fun _ _ => orOverflow_ends huse _) (Or.inr trivial)) fun _ _ => .ok rfl

theorem divide_ends (h₀ : Given P arguments 0 .number) (h₁ : Given P arguments 1 .number) :
    EndsIn P .number (divide arguments) := by
  refine .bind (number_failsWith h₀) fun a _ => .bind (number_failsWith h₁) fun b _ => ?_
  exact .ite (.error (huse _ rfl)) (.andThen (orOverflow_ends huse _) fun _ _ => .ok rfl)

theorem round_ends (h₀ : Given P arguments 0 .number)
    (h₁ : 1 < arguments.length → Given P arguments 1 .number) : EndsIn P .number (round arguments) := by
  refine .bind (number_failsWith h₀) fun n _ => ?_
  have hrounded (places : Int) : EndsIn P .number
      (if h : 0 ≤ places ∧ places ≤ Decimal.maxScale then
        (pure (.number (n.roundTo places.toNat (by omega))) : Except Fault Value)
      else throw (.invalidArgument "ROUND" (.invalidPlaces places))) := by
    split
    · exact .ok rfl
    · exact .error (huse _ rfl)
  split
  · next hcount => exact .bind (integer_failsWith huse (h₁ hcount)) fun places _ => hrounded places
  · exact hrounded 0

omit huse in
theorem abs_ends (h₀ : Given P arguments 0 .number) : EndsIn P .number (abs arguments) :=
  .bind (number_failsWith h₀) fun _ _ => .ok rfl

omit huse in
theorem extreme_ends (before : Ordering) (h : ∀ i < arguments.length, Given P arguments i .number)
    (hcount : 1 ≤ arguments.length ∨ P (.invalidArgument function .noArguments)) :
    EndsIn P .number (extreme function before arguments) := by
  rcases hcount with hcount | hcovers
  · -- with the first argument there is a best one, and then there always is
    refine .andThen (foldNumbers_ends h (Q := fun best => best.isSome = true) (fun _ _ => .ok rfl)
      (Or.inl hcount)) fun best hbest => ?_
    obtain ⟨n, rfl⟩ := Option.isSome_iff_exists.mp hbest
    exact .ok rfl
  · refine .andThen (foldNumbers_ends h (Q := fun _ => True) (fun _ _ => .ok trivial) (Or.inr trivial))
      fun best _ => ?_
    split
    · exact .ok rfl
    · exact .error hcovers

end Arithmetic

/-! ### Texts -/

namespace Texts

omit huse in
theorem concat_ends (h : ∀ i < arguments.length, Given P arguments i .string) :
    EndsIn P .string (concat arguments) :=
  .bind (FailsWith.mapM fun i hi => string_failsWith (h i (List.mem_range.mp hi))) fun _ _ => .ok rfl

omit huse in
theorem upper_ends (h₀ : Given P arguments 0 .string) : EndsIn P .string (upper arguments) :=
  .bind (string_failsWith h₀) fun _ _ => .ok rfl

omit huse in
theorem lower_ends (h₀ : Given P arguments 0 .string) : EndsIn P .string (lower arguments) :=
  .bind (string_failsWith h₀) fun _ _ => .ok rfl

omit huse in
theorem trim_ends (h₀ : Given P arguments 0 .string) : EndsIn P .string (trim arguments) :=
  .bind (string_failsWith h₀) fun _ _ => .ok rfl

omit huse in
theorem contains_ends (h₀ : Given P arguments 0 .string) (h₁ : Given P arguments 1 .string) :
    EndsIn P .boolean (contains arguments) :=
  .bind (string_failsWith h₀) fun _ _ => .bind (string_failsWith h₁) fun _ _ => .ok rfl

theorem length_ends (h₀ : Given P arguments 0 .string) : EndsIn P .number (length arguments) := by
  refine .bind (string_failsWith h₀) fun text _ => ?_
  split
  · exact .ok rfl
  · exact .error (huse _ rfl)

theorem substring_ends (h₀ : Given P arguments 0 .string) (h₁ : Given P arguments 1 .number)
    (h₂ : 2 < arguments.length → Given P arguments 2 .number) :
    EndsIn P .string (substring arguments) := by
  refine .bind (string_failsWith h₀) fun text _ => .bind (integer_failsWith huse h₁) fun start _ => ?_
  refine .ite (.error (huse _ rfl)) ?_
  dsimp only
  split
  · next hcount =>
    exact .bind (integer_failsWith huse (h₂ hcount)) fun length _ => .ite (.error (huse _ rfl)) (.ok rfl)
  · exact .ok rfl

end Texts

/-! ### Dates -/

theorem DateUnit.ofText_failsWith (text : String) : FailsWith P (DateUnit.ofText function text) := by
  rw [DateUnit.ofText]
  split
  · exact .ok _
  · exact .error (huse _ rfl)

namespace Dates

theorem add_ends (h₀ : Given P arguments 0 .dateTime) (h₁ : Given P arguments 1 .number)
    (h₂ : Given P arguments 2 .string) : EndsIn P .dateTime (add arguments) := by
  refine .bind (dateTime_failsWith h₀) fun date _ => .bind (integer_failsWith huse h₁) fun amount _ => ?_
  refine .bind (string_failsWith h₂) fun text _ => .bind (DateUnit.ofText_failsWith huse text) fun unit _ => ?_
  split
  · exact .ok rfl
  · exact .error (huse _ rfl)

theorem difference_ends (h₀ : Given P arguments 0 .dateTime) (h₁ : Given P arguments 1 .dateTime)
    (h₂ : Given P arguments 2 .string) : EndsIn P .number (difference arguments) := by
  refine .bind (dateTime_failsWith h₀) fun start _ => .bind (dateTime_failsWith h₁) fun last _ => ?_
  refine .bind (string_failsWith h₂) fun text _ => .bind (DateUnit.ofText_failsWith huse text) fun unit _ => ?_
  split
  · exact .ok rfl
  · exact .error (huse _ rfl)

theorem format_ends (h₀ : Given P arguments 0 .dateTime) (h₁ : Given P arguments 1 .string) :
    EndsIn P .string (format arguments) := by
  refine .bind (dateTime_failsWith h₀) fun date _ => .bind (string_failsWith h₁) fun text _ => ?_
  split
  · exact .error (huse _ rfl)
  · split
    · exact .ok rfl
    · exact .error (huse _ rfl)

end Dates

end Functions

/-! ### Any function of values -/

namespace Eager

variable {f : Eager}

theorem test_ends {holds : Value → Value → Except Fault Bool}
    (hcount : arguments.length = 2 ∨ P (.invalidArgument function .notTwoValues))
    (hholds : ∀ a b, arguments = [a, b] → FailsWith P (holds a b)) :
    EndsIn P .boolean (test function holds arguments) := by
  unfold test
  split
  · next a b => exact .map (hholds a b rfl) fun _ => rfl
  · next hother =>
    refine .error (hcount.resolve_left fun htwo => ?_)
    obtain ⟨a, b, rfl⟩ := List.length_eq_two.mp htwo
    exact hother a b rfl

theorem givenList_ends (hgiven : Given P arguments 0 .optionList)
    (hcount : 1 ≤ arguments.length ∨ P (.invalidArgument "STATIC" .missingOptions)) :
    EndsIn P .optionList (givenList arguments) := by
  unfold givenList
  split
  · exact .ok rfl
  · next first rest hother =>
    refine .error (hgiven.mismatch (fun v hv => ?_) (some first))
    obtain rfl : first = v := Option.some.inj hv
    cases first <;> first | exact absurd rfl (hother _) | exact nofun
  · exact .error (hcount.resolve_left (by simp))

/-- How a function uses its arguments, and what it yields. -/
structure Usage where
  /-- The kinds of the arguments that it takes from the first on, without asking whether they are there. -/
  fixed : List ValueKind
  /-- The kind of each further argument that is there, if the function takes these. -/
  further : Option ValueKind
  /-- The least number of arguments that it asks for. -/
  least : Nat
  /-- The greatest number of arguments that it can do with, if there is one. -/
  most : Option Nat
  /-- What it yields. -/
  yields : ArgumentKind

/-- Whether so many arguments are enough, and not too many. -/
def Usage.Takes (u : Usage) (count : Nat) : Prop := u.least ≤ count ∧ ∀ most ∈ u.most, count ≤ most

/-- How the functions use their arguments. -/
def usage : Eager → Usage
  | .add | .multiply => ⟨[], some .number, 0, none, .only .number⟩
  | .subtract | .divide => ⟨[.number, .number], none, 0, none, .only .number⟩
  | .round => ⟨[.number], some .number, 0, none, .only .number⟩
  | .abs => ⟨[.number], none, 0, none, .only .number⟩
  | .min | .max => ⟨[], some .number, 1, none, .only .number⟩
  | .not => ⟨[.boolean], none, 0, none, .only .boolean⟩
  | .equals | .greaterThan | .lessThan => ⟨[], none, 2, some 2, .only .boolean⟩
  | .concat => ⟨[], some .string, 0, none, .only .string⟩
  | .upper | .lower | .trim => ⟨[.string], none, 0, none, .only .string⟩
  | .contains => ⟨[.string, .string], none, 0, none, .only .boolean⟩
  | .length => ⟨[.string], none, 0, none, .only .number⟩
  | .substring => ⟨[.string, .number], some .number, 0, none, .only .string⟩
  | .now | .today => ⟨[], none, 0, none, .only .dateTime⟩
  | .dateAdd => ⟨[.dateTime, .number, .string], none, 0, none, .only .dateTime⟩
  | .dateDiff => ⟨[.dateTime, .dateTime, .string], none, 0, none, .only .number⟩
  | .formatDate => ⟨[.dateTime, .string], none, 0, none, .only .string⟩
  | .isEmpty => ⟨[], none, 0, none, .only .boolean⟩
  | .coalesce => ⟨[], none, 0, none, .any⟩
  | .static => ⟨[.optionList], none, 1, none, .only .optionList⟩

/-- `P` covers all that the function may fail with for the arguments. -/
structure Covers (f : Eager) (arguments : List Value) (P : Fault → Prop) : Prop where
  /-- Faults of the use of values are covered. -/
  use : ∀ fault, fault.isOfUse = true → P fault
  /-- The arguments that are taken anyway are given, or covered. -/
  fixed : ∀ position kind, f.usage.fixed[position]? = some kind → Given P arguments position kind
  /-- So are those that are taken if they are there. -/
  further : ∀ kind, f.usage.further = some kind → ∀ position < arguments.length,
    f.usage.fixed.length ≤ position → Given P arguments position kind
  /-- There are as many arguments as the function can do with, or faults of their number are covered. -/
  count : f.usage.Takes arguments.length ∨
    ∀ function cause, cause.isOfCount = true → P (.invalidArgument function cause)
  /-- That two values have no order is covered where it is asked for. -/
  order : f = .greaterThan ∨ f = .lessThan →
    ∀ function a b, arguments = [a, b] → FailsWith P (a.compare function b)

namespace Covers

/-- A function that takes just what is there wants it to be of one kind. -/
theorem each (h : f.Covers arguments P) (hfixed : f.usage.fixed = []) (hfurther : f.usage.further = some kind) :
    ∀ i < arguments.length, Given P arguments i kind := by
  intro i hi
  refine h.further kind hfurther i hi ?_
  rw [hfixed]
  exact Nat.zero_le i

theorem enough (h : f.Covers arguments P) {cause : ArgumentFault} (hcause : cause.isOfCount = true) :
    f.usage.least ≤ arguments.length ∨ P (.invalidArgument function cause) :=
  h.count.imp And.left fun hcovers => hcovers function cause hcause

theorem two (h : f.Covers arguments P) (hleast : f.usage.least = 2) (hmost : f.usage.most = some 2) :
    arguments.length = 2 ∨ P (.invalidArgument function .notTwoValues) := by
  refine h.count.imp (fun hcount => ?_) fun hcovers => hcovers function _ rfl
  exact Nat.le_antisymm (hcount.2 2 hmost) (hleast ▸ hcount.1)

end Covers

/-- **A function of values yields a value of its kind, or fails with what is covered.** -/
theorem apply_ends (h : f.Covers arguments P) (clock : DateTime) :
    Ends P f.usage.yields.Admits (f.apply clock arguments) := by
  cases f with
  -- numbers
  | add => exact Arithmetic.add_ends h.use (h.each rfl rfl)
  | subtract => exact Arithmetic.subtract_ends h.use (h.fixed 0 _ rfl) (h.fixed 1 _ rfl)
  | multiply => exact Arithmetic.multiply_ends h.use (h.each rfl rfl)
  | divide => exact Arithmetic.divide_ends h.use (h.fixed 0 _ rfl) (h.fixed 1 _ rfl)
  | round =>
    exact Arithmetic.round_ends h.use (h.fixed 0 _ rfl) fun hcount => h.further _ rfl 1 hcount (Nat.le_refl 1)
  | abs => exact Arithmetic.abs_ends (h.fixed 0 _ rfl)
  | min => exact Arithmetic.extreme_ends _ (h.each rfl rfl) (h.enough rfl)
  | max => exact Arithmetic.extreme_ends _ (h.each rfl rfl) (h.enough rfl)
  -- truth values, and tests of two values
  | not => exact .map (boolean_failsWith (h.fixed 0 _ rfl)) fun _ => rfl
  | equals => exact test_ends (h.two rfl rfl) fun _ _ _ => .ok _
  | greaterThan => exact test_ends (h.two rfl rfl) fun a b hab => (h.order (Or.inl rfl) _ a b hab).map _
  | lessThan => exact test_ends (h.two rfl rfl) fun a b hab => (h.order (Or.inr rfl) _ a b hab).map _
  -- texts
  | concat => exact Texts.concat_ends (h.each rfl rfl)
  | upper => exact Texts.upper_ends (h.fixed 0 _ rfl)
  | lower => exact Texts.lower_ends (h.fixed 0 _ rfl)
  | trim => exact Texts.trim_ends (h.fixed 0 _ rfl)
  | contains => exact Texts.contains_ends (h.fixed 0 _ rfl) (h.fixed 1 _ rfl)
  | length => exact Texts.length_ends h.use (h.fixed 0 _ rfl)
  | substring =>
    exact Texts.substring_ends h.use (h.fixed 0 _ rfl) (h.fixed 1 _ rfl) fun hcount =>
      h.further _ rfl 2 hcount (Nat.le_refl 2)
  -- dates; the clock is asked for no argument
  | now => exact .ok rfl
  | today => exact .ok rfl
  | dateAdd => exact Dates.add_ends h.use (h.fixed 0 _ rfl) (h.fixed 1 _ rfl) (h.fixed 2 _ rfl)
  | dateDiff => exact Dates.difference_ends h.use (h.fixed 0 _ rfl) (h.fixed 1 _ rfl) (h.fixed 2 _ rfl)
  | formatDate => exact Dates.format_ends h.use (h.fixed 0 _ rfl) (h.fixed 1 _ rfl)
  -- any values
  | isEmpty => exact .ok rfl
  | coalesce => exact .ok trivial
  | static => exact givenList_ends (h.fixed 0 _ rfl) (h.enough rfl)

/-- What a function yields is of its kind, whatever it is given. -/
theorem apply_yields {clock : DateTime} {v : Value} (h : f.apply clock arguments = .ok v) :
    f.usage.yields.Admits v := by
  have hall : f.Covers arguments fun _ => True := {
    use := fun _ _ => trivial
    fixed := fun _ _ _ => Or.inr fun _ _ => trivial
    further := fun _ _ _ _ _ => Or.inr fun _ _ => trivial
    count := Or.inr fun _ _ _ => trivial
    order := fun _ _ _ _ _ _ _ => trivial }
  exact (apply_ends hall clock).yields v h

end Eager

end Formulary
