set_option autoImplicit false

/-!
# Floating-point numbers as exact fractions

A finite floating-point number of sixty-four bits is a fraction whose denominator is a power of
two. Everything that reads or writes decimal digits goes through that fraction in exact natural
arithmetic; rounding happens in one place, to the nearest number, a tie to the even one.

## Main definitions

* `Specimen.Decimal.Dyadic` — a finite floating-point number, exactly.
* `Specimen.Decimal.Dyadic.ofFloat?` — the exact value of a finite `Float`.
* `Specimen.Decimal.roundQuotient` — a quotient rounded to the nearest integer, ties to even.
* `Specimen.Decimal.nearest` — the `Float` nearest to a fraction.
* `Specimen.Decimal.truncate`, `Specimen.Decimal.integral?` — the integer part, and the value of a
  number that is an integer.
-/

namespace Specimen.Decimal

/-! ## Exact values -/

/-- The number `± significand · 2 ^ exponent`. -/
structure Dyadic where
  /-- The sign; a zero can carry it too. -/
  negative : Bool
  /-- The digits of the number in base two, as one natural number. -/
  significand : Nat
  /-- The power of two that scales the significand. -/
  exponent : Int

/-- Two to the fifty-second power, the least significand of full precision. -/
def fullPrecision : Nat := 0x10000000000000

/-- Two to the sixty-third power, the weight of the sign in the bits of a number. -/
def signWeight : Nat := 0x8000000000000000

/-- The value of a finite number; infinities and values that are no numbers have none. -/
def Dyadic.ofFloat? (x : Float) : Option Dyadic :=
  let bits := x.toBits.toNat
  let fraction := bits % fullPrecision
  let biased := bits / fullPrecision % 2048
  let negative := decide (signWeight ≤ bits)
  if biased = 2047 then none
  else if biased = 0 then some ⟨negative, fraction, -1074⟩
  else some ⟨negative, fullPrecision + fraction, (biased : Int) - 1075⟩

/-- Numerator and denominator of the magnitude. -/
def Dyadic.fraction (x : Dyadic) : Nat × Nat :=
  (x.significand * Nat.pow 2 x.exponent.toNat, Nat.pow 2 (-x.exponent).toNat)

/-- The integer part: the fraction after the point is dropped, whatever the sign. -/
def Dyadic.truncate (x : Dyadic) : Int :=
  let (numerator, denominator) := x.fraction
  let magnitude : Int := (numerator / denominator : Nat)
  if x.negative then -magnitude else magnitude

/-- Nothing stands after the point. -/
def Dyadic.isIntegral (x : Dyadic) : Bool :=
  let (numerator, denominator) := x.fraction
  numerator % denominator == 0

/-- The integer part of a finite number, and zero for the others. -/
def truncate (x : Float) : Int := ((Dyadic.ofFloat? x).map Dyadic.truncate).getD 0

/-- The value of a number that is an integer. -/
def integral? (x : Float) : Option Int := do
  let exact ← Dyadic.ofFloat? x
  if exact.isIntegral then some exact.truncate else none

/-- The number is neither infinite nor undefined. -/
def isFinite (x : Float) : Bool := (Dyadic.ofFloat? x).isSome

/-! ## Rounding -/

/-- The quotient rounded to the nearest integer; a tie goes to the even one. -/
def roundQuotient (numerator denominator : Nat) : Nat :=
  let quotient := numerator / denominator
  let twice := 2 * (numerator % denominator)
  if twice < denominator then quotient
  else if denominator < twice then quotient + 1
  else quotient + quotient % 2

/-- The fraction with its value divided by `2 ^ exponent`. -/
def scaleDown (numerator denominator : Nat) (exponent : Int) : Nat × Nat :=
  (numerator * Nat.pow 2 (-exponent).toNat, denominator * Nat.pow 2 exponent.toNat)

/-- The bits of the positive number nearest to `numerator / denominator`. The significand takes
fifty-three digits, or fewer next to zero; what is too large becomes infinite. -/
def nearestBits (numerator denominator : Nat) : Nat :=
  if numerator = 0 then 0
  else
    let guess : Int := (numerator.log2 : Int) - denominator.log2 - 52
    let (n, d) := scaleDown numerator denominator guess
    let exponent := max (if n / d < fullPrecision then guess - 1 else guess) (-1074)
    let (n, d) := scaleDown numerator denominator exponent
    let bits := (exponent + 1074).toNat * fullPrecision + roundQuotient n d
    min bits (2047 * fullPrecision)

/-- The number nearest to `± numerator / denominator`. -/
def nearest (negative : Bool) (numerator denominator : Nat) : Float :=
  Float.ofBits (nearestBits numerator denominator + if negative then signWeight else 0).toUInt64

/-- The number nearest to an integer. -/
def ofInt (n : Int) : Float := nearest (n < 0) n.natAbs 1

end Specimen.Decimal
