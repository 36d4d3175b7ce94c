import Specimen.Proofs.Decimal.Shares
import Specimen.Proofs.Random.Draws

set_option autoImplicit false

/-!
# Steps that may fail

The operations that executing a rule is made of have preconditions: a position is one of the list, a
range has elements, a result fits sixty-four bits. A checked step looks at the precondition of each
operation and fails where it does not hold. A checked step is safe when it never fails; it then does
what the step without checks does.

## Main definitions

* `Specimen.Failure` — the preconditions that do not hold.
* `Specimen.Checked` — a step of generation that may fail.
* `Specimen.Checked.IsSafe` — a checked step that never fails, and the step that it is.
* `Specimen.Checked.fits`, `Specimen.Checked.size`, `Specimen.Checked.item` — arithmetic, conversion
  and access with their checks.
* `Specimen.Checked.integer`, `Specimen.Checked.index`, `Specimen.Checked.sample`,
  `Specimen.Checked.coin` — draws with their checks.

## Main results

* `Specimen.Checked.IsSafe.bind` — safe steps one after the other.
* `Specimen.Checked.isSafe_integer`, `Specimen.Checked.isSafe_index` — draws from any bounds are
  safe.
-/

namespace Specimen

/-- A precondition that does not hold. -/
inductive Failure where
  /-- A position is not one of the list. -/
  | outOfBounds
  /-- A random range has no elements. -/
  | emptyRange
  /-- A sample is larger than what it is taken from. -/
  | largeSample
  /-- A probability is not between zero and one. -/
  | probability
  /-- A divisor is not positive. -/
  | divisor
  /-- A result does not fit sixty-four signed bits. -/
  | overflow
  /-- A number has no counterpart in the type to which it is converted. -/
  | conversion
  /-- A text does not fit memory. -/
  | memory
  deriving DecidableEq, Repr

/-- A step of generation that may fail. -/
abbrev Checked := StateT Progress (Except Failure)

namespace Checked

variable {α β : Type}

/-- Fails when the condition does not hold. -/
def require (condition : Prop) [Decidable condition] (failure : Failure) : Checked Unit :=
  if condition then pure () else throw failure

/-- A step without preconditions. -/
def lift (step : Gen α) : Checked α := fun progress => .ok (step.run progress)

/-! ## Safe steps -/

/-- The checked step never fails, and does what the other step does. -/
def IsSafe (checked : Checked α) (step : Gen α) : Prop :=
  ∀ progress, checked.run progress = .ok (step.run progress)

theorem isSafe_pure (result : α) : IsSafe (pure result) (pure result) := fun _ => rfl

theorem isSafe_lift (step : Gen α) : IsSafe (lift step) step := fun _ => rfl

/-- **Safe steps one after the other** are safe. What the first step gives can be used for the
second. -/
theorem IsSafe.bind {property : α → Prop} {checked : Checked α} {step : Gen α}
    {next : α → Checked β} {further : α → Gen β} (h : IsSafe checked step)
    (hgives : Gives step property)
    (hnext : ∀ result, property result → IsSafe (next result) (further result)) :
    IsSafe (checked >>= next) (step >>= further) := by
  intro progress
  have hsecond := hnext _ (hgives progress) (step.run progress).2
  rw [StateT.run_bind, h progress, run_bind, ← hsecond]
  rfl

/-- The result of the first step does not matter for the second. -/
theorem IsSafe.bind_any {checked : Checked α} {step : Gen α} {next : α → Checked β}
    {further : α → Gen β} (h : IsSafe checked step)
    (hnext : ∀ result, IsSafe (next result) (further result)) :
    IsSafe (checked >>= next) (step >>= further) :=
  have hgives : Gives step fun _ => True := fun _ => trivial
  h.bind hgives fun result _ => hnext result

theorem IsSafe.map {checked : Checked α} {step : Gen α} (h : IsSafe checked step) (f : α → β) :
    IsSafe (f <$> checked) (f <$> step) := by
  intro progress
  rw [StateT.run_map, h progress, run_map]
  rfl

/-- A requirement that is met does nothing. -/
theorem require_bind {condition : Prop} [Decidable condition] (h : condition) (failure : Failure)
    (next : Checked α) : (do require condition failure; next) = next := by
  rw [require, if_pos h]
  rfl

/-- A safe step can be taken many times. -/
theorem IsSafe.many {checked : Checked α} {step : Gen α} (h : IsSafe checked step) (count : Nat) :
    IsSafe (many count checked) (many count step) :=
  many_related (fun _ checked step => IsSafe checked step) isSafe_pure
    (fun hfirst hnext => hfirst.bind_any hnext) h count

/-! ## Arithmetic, conversion and access -/

/-- A result of arithmetic that fits sixty-four signed bits. -/
def fits (n : Int) : Checked Int := do
  require (Integer.InRange n) .overflow
  pure n

theorem fits_eq {n : Int} (h : Integer.InRange n) : fits n = pure n := require_bind h _ _

/-- An integer as a number of so many bits without a sign. -/
def unsigned (bits : Nat) (n : Int) : Checked Nat := do
  require (0 ≤ n ∧ n < 2 ^ bits) .conversion
  pure n.toNat

theorem unsigned_eq {bits : Nat} {n : Int} (hnonneg : 0 ≤ n) (h : n < 2 ^ bits) :
    unsigned bits n = pure n.toNat := require_bind ⟨hnonneg, h⟩ _ _

/-- An integer as a size. -/
def size (n : Int) : Checked Nat := unsigned 64 n

/-- An integer in range that is not below zero is a size. -/
theorem size_eq {n : Int} (hnonneg : 0 ≤ n) (h : Integer.InRange n) : size n = pure n.toNat := by
  refine unsigned_eq hnonneg ?_
  unfold Integer.InRange Integer.greatest at h
  omega

/-- The element of a list at a position. -/
def item (items : List α) (position : Nat) : Checked α :=
  match items[position]? with
  | some item => pure item
  | none => throw .outOfBounds

theorem item_eq {items : List α} {position : Nat} (h : position < items.length) :
    item items position = pure items[position] := by
  rw [item, List.getElem?_eq_getElem h]

/-- A length as a signed integer. -/
def signed (length : Nat) : Checked Int := do
  require ((length : Int) ≤ Integer.greatest) .conversion
  pure length

theorem signed_eq {length : Nat} (h : length < 2 ^ 63) : signed length = pure (length : Int) := by
  have hle : (length : Int) ≤ Integer.greatest := by
    unfold Integer.greatest
    omega
  exact require_bind hle _ _

/-- The remainder by a positive divisor, which is not below zero. -/
def remainder (n divisor : Int) : Checked Int := do
  require (0 < divisor) .divisor
  pure (n % divisor)

theorem remainder_eq {divisor : Int} (h : 0 < divisor) (n : Int) :
    remainder n divisor = pure (n % divisor) := require_bind h _ _

/-- Reads a counter and moves it on by an addition that stops at the ends of the range. -/
def advance (key : String) (seed step : Int) : Checked Int := do
  let ledger ← lift Gen.ledger
  let _ ← fits (Integer.saturate ((ledger.counter? key).getD seed + step))
  lift (Gen.advance key seed step)

theorem isSafe_advance (key : String) (seed step : Int) :
    IsSafe (advance key seed step) (Gen.advance key seed step) := by
  intro progress
  have hfits := fits_eq (Integer.inRange_saturate
    ((progress.ledger.counter? key).getD seed + step))
  change ((do let _ ← fits (Integer.saturate ((progress.ledger.counter? key).getD seed + step))
              lift (Gen.advance key seed step)) : Checked Int).run progress = _
  rw [hfits]
  rfl

/-! ## Draws -/

/-- All results of a draw have a property when it is a step of generation as well. -/
theorem gives_draw {step : Draw α} {property : α → Prop} (h : Gives step property) :
    Gives (Gen.draw step) property := fun progress => h progress.source

/-- An integer between two bounds in either order. -/
def integer (a b : Int) : Checked Int :=
  if min a b = max a b then pure (min a b)
  else do
    require (min a b ≤ max a b) .emptyRange
    lift (Gen.draw (Draw.integer (min a b) (max a b)))

/-- **An integer can be drawn from any bounds**: the lower one is not above the upper one. -/
theorem isSafe_integer (a b : Int) : IsSafe (integer a b) (Gen.draw (Draw.integer a b)) := by
  unfold integer
  split
  · rename_i heq
    obtain rfl : a = b := by omega
    rw [Draw.integer_self, Int.min_self]
    exact isSafe_pure a
  · have hle : min a b ≤ max a b := by omega
    have hmin : min (min a b) (max a b) = min a b := Int.min_eq_left hle
    have hmax : max (min a b) (max a b) = max a b := Int.max_eq_right hle
    have hdraw : Draw.integer (min a b) (max a b) = Draw.integer a b := by
      unfold Draw.integer
      rw [hmin, hmax]
    rw [require_bind hle, hdraw]
    exact isSafe_lift _

/-- A position in a list of so many elements. -/
def index (length : Nat) : Checked Nat :=
  if length ≤ 1 then pure 0
  else do
    require (0 < length) .emptyRange
    lift (Gen.draw (Draw.position length))

/-- **A position can be drawn from any length.** -/
theorem isSafe_index (length : Nat) : IsSafe (index length) (Gen.draw (Draw.index length)) := by
  unfold index Draw.index
  split
  · exact isSafe_pure 0
  · have hpos : 0 < length := by omega
    rw [require_bind hpos]
    exact isSafe_lift _

/-- So many distinct positions, or all of them when there are no more. -/
def sample (sampler : Sampler) (length amount : Nat) : Checked (List Nat) := do
  require (min amount length ≤ length) .largeSample
  lift (Gen.draw (Draw.sample sampler length (min amount length)))

theorem isSafe_sample (sampler : Sampler) (length amount : Nat) :
    IsSafe (sample sampler length amount) (Gen.draw (Draw.sample sampler length amount)) := by
  have hsample : Draw.sample sampler length (min amount length) =
      Draw.sample sampler length amount := by
    unfold Draw.sample
    rw [Nat.min_assoc, Nat.min_self]
  rw [sample, require_bind (Nat.min_le_right amount length), hsample]
  exact isSafe_lift _

/-- A probability cut to what lies between zero and one. -/
def clamp (probability : Float) : Float :=
  if probability < 0.0 then 0.0 else if 1.0 < probability then 1.0 else probability

/-- A coin with a given probability, cut to what lies between zero and one. -/
def coin (probability : Float) : Checked Bool :=
  if probability.isNaN then pure false
  else do
    require (0.0 ≤ clamp probability ∧ clamp probability ≤ 1.0) .probability
    lift (Gen.draw (Draw.chance (clamp probability)))

/-- A coin can be tossed whose probability is between zero and one. -/
theorem isSafe_coin {probability : Float} (h : Decimal.IsShare probability) :
    IsSafe (coin probability) (Gen.draw (Draw.chance probability)) := by
  have hclamp : clamp probability = probability := by
    rw [clamp, if_neg h.not_lt_zero, if_neg h.not_one_lt]
  unfold coin
  split
  · rename_i hnan
    rw [Draw.chance, if_pos hnan]
    exact isSafe_pure false
  · rw [hclamp, require_bind ⟨h.zero_le, h.le_one⟩]
    exact isSafe_lift _

end Checked

end Specimen
