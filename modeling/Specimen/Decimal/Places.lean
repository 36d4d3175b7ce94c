import Specimen.Decimal.Binary64

set_option autoImplicit false

/-!
# Rounding to a number of decimal places

## Main definitions

* `Specimen.Decimal.roundToPlaces` — the number read back from a text with a fixed number of
  places after the point.
-/

namespace Specimen.Decimal

/-- The number nearest to the decimal with `places` places that is nearest to `x`, where the exact
value of `x` is rounded and a tie goes to the even digit. Nothing for a number that is not
finite. -/
def roundToPlaces (x : Float) (places : Nat) : Option Float := do
  let exact ← Dyadic.ofFloat? x
  let (numerator, denominator) := exact.fraction
  let scale := Nat.pow 10 places
  let rounded := nearest exact.negative (roundQuotient (numerator * scale) denominator) scale
  if isFinite rounded then some rounded else none

end Specimen.Decimal
