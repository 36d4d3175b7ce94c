import Specimen.Decimal.Binary64

set_option autoImplicit false

/-!
# The shortest digits that read back

A floating-point number is written with the fewest decimal digits that still read back as the same
number. The decimals that read back as a number are those in its rounding interval, so the search
goes over the grids of multiples of a power of ten, the coarsest first, until the interval holds a
point of the grid; of two such points the nearer is taken.

## Main definitions

* `Specimen.Decimal.Digits` — a decimal `digits · 10 ^ exponent`.
* `Specimen.Decimal.shortest` — the shortest decimal in the rounding interval.
* `Specimen.Decimal.Layout` — the decisions of a notation for floating-point numbers.
* `Specimen.Decimal.Layout.render` — the text of a number in a notation.
-/

namespace Specimen.Decimal

/-! ## The search -/

/-- The decimal `digits · 10 ^ exponent`. -/
structure Digits where
  /-- The digits, read as one natural number. -/
  digits : Nat
  /-- The power of ten that scales them. -/
  exponent : Int

/-- A number with its rounding interval, all four times over and with a common denominator. -/
structure Interval where
  /-- Four times the lower end. -/
  lower : Nat
  /-- Four times the number. -/
  middle : Nat
  /-- Four times the upper end. -/
  upper : Nat
  /-- The common denominator. -/
  denominator : Nat
  /-- The ends read back as the number too. -/
  closed : Bool

/-- The rounding interval of a positive number. Below a power of two the neighbour is only half as
far away; a tie between neighbours reads back as the one with an even significand. -/
def Interval.of (x : Dyadic) : Interval :=
  let (numerator, denominator) := x.fraction
  let unit := numerator / x.significand
  let near := x.significand = fullPrecision ∧ -1074 < x.exponent
  { lower := 4 * numerator - (if near then unit else 2 * unit)
    middle := 4 * numerator
    upper := 4 * numerator + 2 * unit
    denominator := denominator
    closed := x.significand % 2 == 0 }

/-- The interval holds the decimal `digits · up / down`. -/
def Interval.holds (i : Interval) (digits up down : Nat) : Bool :=
  let value := 4 * digits * up * i.denominator
  if i.closed then i.lower * down ≤ value && value ≤ i.upper * down
  else i.lower * down < value && value < i.upper * down

/-- The point of the grid of multiples of `10 ^ exponent` that the interval holds; of the two
neighbours of the number the nearer, and the even one in a tie. -/
def Interval.point? (i : Interval) (exponent : Int) : Option Digits :=
  let up := Nat.pow 10 exponent.toNat
  let down := Nat.pow 10 (-exponent).toNat
  let below := i.middle * down / (4 * i.denominator * up)
  let above := below + 1
  let belowHolds := 0 < below && i.holds below up down
  let aboveHolds := i.holds above up down
  let fromBelow := i.middle * down - 4 * below * up * i.denominator
  let toAbove := 4 * above * up * i.denominator - i.middle * down
  if belowHolds && aboveHolds then
    if fromBelow < toAbove || (fromBelow == toAbove && below % 2 == 0) then some ⟨below, exponent⟩
    else some ⟨above, exponent⟩
  else if belowHolds then some ⟨below, exponent⟩
  else if aboveHolds then some ⟨above, exponent⟩
  else none

/-- The first grid from `exponent` downwards with a point in the interval, within `steps` grids. -/
def Interval.search (i : Interval) : Nat → Int → Digits
  | 0, exponent => ⟨0, exponent⟩
  | steps + 1, exponent =>
    match i.point? exponent with
    | some found => found
    | none => i.search steps (exponent - 1)

/-- The shortest decimal that reads back as the positive number. The search starts at a power of
ten above the number; a few grids below, seventeen digits always suffice. -/
def shortest (x : Dyadic) : Digits :=
  let (numerator, denominator) := x.fraction
  let magnitude : Int := (numerator.log2 : Int) + 1 - denominator.log2
  (Interval.of x).search 25 (magnitude * 30103 / 100000 + 1)

/-! ## Notation -/

/-- How floating-point numbers are written. -/
structure Layout where
  /-- Numbers below this power of ten are not written positionally. -/
  least : Int
  /-- Numbers that are not below this power of ten are not written positionally, either. -/
  limit : Int
  /-- What ends a positional number without digits after the point. -/
  integralEnd : List Char
  /-- What stands before a positive exponent. -/
  exponentPlus : List Char

/-- The digits of a natural number. -/
def natDigits (n : Nat) : List Char := (toString n).toList

/-- The text of a positive decimal. -/
def Layout.renderDigits (layout : Layout) (decimal : Digits) : List Char :=
  let digits := natDigits decimal.digits
  let magnitude := (digits.length : Int) - 1 + decimal.exponent
  if layout.least ≤ magnitude ∧ magnitude < layout.limit then
    if 0 ≤ decimal.exponent then
      digits ++ List.replicate decimal.exponent.toNat '0' ++ layout.integralEnd
    else if 0 ≤ magnitude then
      digits.take (magnitude.toNat + 1) ++ '.' :: digits.drop (magnitude.toNat + 1)
    else
      '0' :: '.' :: (List.replicate (-magnitude - 1).toNat '0' ++ digits)
  else
    let mantissa :=
      match digits with
      | first :: second :: rest => first :: '.' :: second :: rest
      | short => short
    let power :=
      if magnitude < 0 then '-' :: natDigits magnitude.natAbs
      else layout.exponentPlus ++ natDigits magnitude.natAbs
    mantissa ++ 'e' :: power

/-- The text of a finite number. -/
def Layout.render (layout : Layout) (x : Dyadic) : List Char :=
  let magnitude :=
    if x.significand = 0 then '0' :: layout.integralEnd
    else layout.renderDigits (shortest x)
  if x.negative then '-' :: magnitude else magnitude

end Specimen.Decimal
