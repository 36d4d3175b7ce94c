import Specimen.Random.Uniform

set_option autoImplicit false

/-!
# Samples without repetition

A sampler draws different positions in a list. The usual one goes one of three ways, chosen by the
size of the sample: few positions out of many are collected one by one, with a replacement rule that
keeps them different; many out of not so many are the shuffled front of the list of all positions;
and many out of very many are drawn until so many different ones have come up.

## Main definitions

* `Specimen.Sampler` — a way to draw different positions.
* `Specimen.Draw.collect` — positions collected one by one.
* `Specimen.Draw.shuffleFront` — positions from a shuffled front.
* `Specimen.Draw.collectFresh` — positions drawn until they are different.
* `Specimen.Draw.positions` — the usual sampler.
* `Specimen.Draw.sample` — so many positions of a sampler in ascending order.
-/

namespace Specimen

/-- How positions are sampled: from a length and an amount that is not greater, so many different
positions below the length, in any order. -/
abbrev Sampler := Nat → Nat → Draw (List Nat)

namespace Draw

/-! ## Few positions -/

/-- The list with every occurrence of `old` replaced. -/
def replaceAll (old new : Nat) (picked : List Nat) : List Nat :=
  picked.map fun x => if x = old then new else x

/-- Collects `steps` further positions, the next of which is at most `last`: a position that has
been picked before gives way to `last`, which cannot have been. -/
def collect : Nat → Nat → List Nat → Draw (List Nat)
  | 0, _, picked => pure picked
  | steps + 1, last, picked => do
    let position ← below .w32 (last + 1)
    collect steps (last + 1) (replaceAll position last picked ++ [position])

/-! ## Many positions -/

/-- Exchanges `steps` positions from `first` on, each with a random one that is not before it. -/
def shuffleFront : Nat → Nat → Array Nat → Draw (Array Nat)
  | 0, _, positions => pure positions
  | steps + 1, first, positions => do
    let offset ← below .w32 (positions.size - first)
    shuffleFront steps (first + 1) (positions.swapIfInBounds first (first + offset))

/-! ## Many positions out of very many -/

/-- A position below `length` from one word. A word whose product with the length has too small a
low half gives none, so that every position comes from equally many words. -/
def attempt (width : Width) (length : Nat) : Draw (Option Nat) := do
  let drawn ← word width
  let high := drawn * length / width.count
  let low := drawn * length % width.count
  pure (if width.count % length ≤ low then some high else none)

/-- The first position below `length` that has not been picked. -/
def spare (length : Nat) (picked : List Nat) : Nat :=
  ((List.range length).find? fun n => n ∉ picked).getD 0

/-- The first position of so many attempts that has not been picked, and the first one of all when
there is none among them. -/
def fresh (width : Width) (length : Nat) (picked : List Nat) : Nat → Draw Nat
  | 0 => pure (spare length picked)
  | attempts + 1 => do
    match ← attempt width length with
    | some position =>
      if position ∈ picked then fresh width length picked attempts else pure position
    | none => fresh width length picked attempts

/-- The number of attempts, `2 ^ 68`. A source begins again after so many words, and then nothing
new can come up. -/
def maxAttempts : Nat := 0x100000000000000000

/-- Draws `steps` further positions, each until it is one that has not been picked. -/
def collectFresh (width : Width) (length : Nat) : Nat → List Nat → Draw (List Nat)
  | 0, picked => pure picked
  | steps + 1, picked => do
    let position ← fresh width length picked maxAttempts
    collectFresh width length steps (picked ++ [position])

/-! ## Samples -/

/-- The ways to draw a sample. -/
inductive Strategy where
  /-- Positions are collected one by one. -/
  | collecting
  /-- The front of the list of all positions is shuffled. -/
  | shuffling
  /-- Positions are drawn, with words of a width, until they are different. -/
  | rejecting (width : Width)
  deriving DecidableEq, Repr

/-- The way to draw a sample of `amount` out of `length`. The bounds are computed with
floating-point numbers of thirty-two bits, and are others for lists of half a million. -/
def strategy (length amount : Nat) : Strategy :=
  let long := decide (500000 ≤ length)
  let total := Float32.ofNat length
  let size := Float32.ofNat amount
  if Width.w32.count ≤ length then .rejecting .w64
  else if amount < 163 then
    let base : Float32 := if long then 70.0 / 9.0 else 10.0
    let slope : Float32 := if long then 8.0 / 45.0 else 1.6
    if 11 < amount ∧ total < (base + slope * size) * size then .shuffling else .collecting
  else
    let ratio : Float32 := if long then 330.0 / 9.0 else 270.0
    if total < ratio * size then .shuffling else .rejecting .w32

/-- The usual sampler. -/
def positions : Sampler := fun length amount =>
  match strategy length amount with
  | .collecting => collect amount (length - amount) []
  | .shuffling => do
    let shuffled ← shuffleFront amount 0 (Array.range length)
    pure (shuffled.toList.take amount)
  | .rejecting width => collectFresh width length amount []

/-- So many positions of a sampler in ascending order, or all of them when there are no more. -/
def sample (sampler : Sampler) (length amount : Nat) : Draw (List Nat) := do
  let picked ← sampler length (min amount length)
  pure (picked.mergeSort (· ≤ ·))

end Draw

end Specimen
