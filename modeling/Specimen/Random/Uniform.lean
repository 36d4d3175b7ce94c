import Specimen.Random.Source
import Specimen.Integer
import Specimen.Decimal.Binary64

set_option autoImplicit false

/-!
# Uniform draws

A number below a bound comes from the high half of the product of the bound with a random word; a
second word decides a carry when the low half leaves it open. Integers between equal bounds, and
positions in lists of at most one element, draw nothing.

## Main definitions

* `Specimen.Draw.Width` — the two widths of words.
* `Specimen.Draw.below` — a number below a bound.
* `Specimen.Draw.integer`, `Specimen.Draw.natural`, `Specimen.Draw.index` — integers between bounds,
  and positions in a list.
* `Specimen.Draw.boolean`, `Specimen.Draw.chance` — a fair coin, and a coin with a given
  probability.
* `Specimen.Draw.float` — a floating-point number between bounds.
-/

namespace Specimen.Draw

/-! ## Numbers below a bound -/

/-- The widths of words that a draw can use. -/
inductive Width where
  /-- One word. -/
  | w32
  /-- Two words. -/
  | w64
  deriving DecidableEq, Repr

/-- How many words of a width there are. -/
def Width.count : Width → Nat
  | .w32 => 0x100000000
  | .w64 => 0x10000000000000000

/-- The next word of a width. -/
def word : Width → Draw Nat
  | .w32 => word32
  | .w64 => word64

/-- A number below `bound`, where `0 < bound` and the words of the width are at least so many. -/
def below (width : Width) (bound : Nat) : Draw Nat := do
  let first ← word width
  let high := first * bound / width.count
  let low := first * bound % width.count
  if width.count - bound < low then
    let second ← word width
    let carry := second * bound / width.count
    pure (if width.count ≤ low + carry then high + 1 else high)
  else pure high

/-- The width of the words that choose among so many things. -/
def widthFor (count : Nat) : Width := if count < Width.w32.count then .w32 else .w64

/-- A position in a list of `length` elements, drawn even when there is only one. -/
def position (length : Nat) : Draw Nat := below (widthFor length) length

/-- A position in a list of `length` elements; nothing is drawn when there is at most one. -/
def index (length : Nat) : Draw Nat := if length ≤ 1 then pure 0 else position length

/-! ## Integers -/

/-- A word of sixty-four bits read as a signed integer. -/
def signed (word : Nat) : Int :=
  if word < 0x8000000000000000 then word else (word : Int) - Width.w64.count

/-- An integer between two bounds in either order, both included. Equal bounds draw nothing, and
the bounds of the whole range take a word as it is. -/
def integer (a b : Int) : Draw Int :=
  let low := min a b
  let high := max a b
  if low = high then pure low
  else if high - low + 1 = Width.w64.count then do
    let word ← word64
    pure (signed word)
  else do
    let offset ← below .w64 (high - low + 1).toNat
    pure (low + offset)

/-- An integer between two bounds, where negative bounds count as zero. -/
def natural (a b : Int) : Draw Int := integer (max a 0) (max b 0)

/-! ## Coins and floating-point numbers -/

/-- True when the next word of sixty-four bits is below the threshold. -/
def under (threshold : Nat) : Draw Bool := do
  let word ← word64
  pure (decide (word < threshold))

/-- A fair coin. -/
def boolean : Draw Bool := under 0x8000000000000000

/-- A coin that shows true with the given probability. Certainty draws nothing, and neither does a
probability that is no number; below zero it counts as zero. -/
def chance (probability : Float) : Draw Bool :=
  if probability.isNaN then pure false
  else if 1.0 ≤ probability then pure true
  else
    match Decimal.Dyadic.ofFloat? probability with
    | some exact =>
      let (numerator, denominator) := exact.fraction
      under (if exact.negative then 0 else numerator * Width.w64.count / denominator)
    | none => under 0

/-- A floating-point number from `low` up to `high`: fifty-two random bits as a fraction of the way
from one to the other. -/
def float (low high : Float) : Draw Float := do
  let word ← word64
  let unit := Decimal.nearest false (word / 4096) Decimal.fullPrecision
  pure (low + unit * (high - low))

end Specimen.Draw
