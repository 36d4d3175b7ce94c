import Specimen.Integer

set_option autoImplicit false

/-!
# Digits of numbers

The usual numeral of a number has nothing but digits, which write the number, and begins with a zero
only when it is the numeral of zero.

## Main results

* `Specimen.Integer.ofDigits_toDigits` — the digits of a number write the number.
* `Specimen.Integer.head?_toDigits` — the digits of zero alone begin with a zero.
-/

namespace Specimen.Integer

/-- The digits of a number are digits. -/
theorem isDigit_of_mem_toDigits {n : Nat} {c : Char} (h : c ∈ Nat.toDigits 10 n) :
    isDigit c = true := Nat.isDigit_of_mem_toDigits (by omega) (by omega) h

/-- The digits of a number write the number. -/
theorem ofDigits_toDigits (n : Nat) : ofDigits (Nat.toDigits 10 n) = n :=
  Nat.ofDigitChars_eq_foldl.symm.trans Nat.ofDigitChars_ten_toDigits

/-- The digits of zero alone begin with a zero.

**Proof sketch.** By induction on the number. In front of its last digit it has the digits of its
tenth part, which is not zero when there are any. -/
theorem head?_toDigits {n : Nat} (h : n ≠ 0) : (Nat.toDigits 10 n).head? ≠ some '0' := by
  induction n using Nat.strongRecOn with
  | ind n ih =>
    by_cases hsmall : n < 10
    · have hdigit : ∀ digit < 10, digit ≠ 0 → some (Nat.digitChar digit) ≠ some '0' := by decide
      rw [Nat.toDigits_of_lt_base hsmall]
      exact hdigit n hsmall h
    · have hpart := ih (n / 10) (by omega) (by omega)
      rw [Nat.toDigits_of_base_le (by omega) (by omega), List.head?_append]
      cases hhead : (Nat.toDigits 10 (n / 10)).head? with
      | none => exact absurd (List.head?_eq_none_iff.1 hhead) Nat.toDigits_ne_nil
      | some c => simpa [hhead] using hpart

end Specimen.Integer
