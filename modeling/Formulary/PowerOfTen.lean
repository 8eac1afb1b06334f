/-!
# Powers of ten

`powerOfTen n` is a one with `n` zeros. It is a function of its own, so that what is said about it does
not hang on how powers are written.
-/

namespace Formulary

/-- Ten to the power of `n`. -/
def powerOfTen (n : Nat) : Nat := Nat.pow 10 n

@[simp] theorem powerOfTen_zero : powerOfTen 0 = 1 := rfl

theorem powerOfTen_succ (n : Nat) : powerOfTen (n + 1) = powerOfTen n * 10 := rfl

end Formulary
