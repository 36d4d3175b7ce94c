import Specimen.Integer

set_option autoImplicit false

/-!
# Rules

A rule says how the value of a property is varied. Each constructor belongs to one shape of rule
text and one kind of value. A rule can be written that makes no sense; validation finds the first
fault, and a rule with a fault is not applied.

## Main definitions

* `Specimen.Rule` — the sixteen rules.
* `Specimen.Rule.fault?` — the first fault of a rule.
* `Specimen.RuleFault.message` — the wording of a fault.
* `Specimen.Rule.IsAdmissible` — the rules whose numbers make sense.

## Main results

* `Specimen.Rule.fault?_eq_none_iff` — the rules without fault are the admissible ones.
-/

namespace Specimen

/-- The most decimal places that a rule can ask for. -/
def maxPlaces : Int := 10

/-- The most repetitions that a rule can ask for; also the greatest length or number of elements
that a placeholder produces. -/
def maxRepeat : Int := 10000

/-- A rule for the value of a property. -/
inductive Rule where
  /-- A text, repeated a random number of times. -/
  | stringRange (min max : Int)
  /-- A text, repeated so many times. -/
  | stringCount (count : Int)
  /-- A running number that starts at the literal. -/
  | numberIncrement (step : Int)
  /-- A random integer between two bounds. -/
  | numberRange (min max : Int)
  /-- A random number between two bounds with a random number of decimal places. -/
  | floatRange (min max minPlaces maxPlaces : Int)
  /-- A number with a given integer part and a random number of random decimal places. -/
  | floatCount (count minPlaces maxPlaces : Int)
  /-- A random number between two bounds with so many decimal places. -/
  | floatRangeFixed (min max places : Int)
  /-- A number with a given integer part and so many random decimal places. -/
  | floatFixed (count places : Int)
  /-- A fair coin. -/
  | booleanRandom
  /-- A coin that shows true with probability `min / (min + max)`. -/
  | booleanWeighted (min max : Int)
  /-- An object with so many of its members. -/
  | objectCount (count : Int)
  /-- An object with a random number of its members. -/
  | objectRange (min max : Int)
  /-- One item of an array in place of the array. -/
  | arrayPickOne
  /-- The items of an array in turn, in place of the array. -/
  | arrayPickSequential (step : Int)
  /-- A random number of random picks from an array. -/
  | arrayRepeatRange (min max : Int)
  /-- So many random picks from an array. -/
  | arrayRepeatCount (count : Int)
  deriving DecidableEq, Repr, Inhabited

/-- Why a rule makes no sense. -/
inductive RuleFault where
  /-- A bound is below zero. -/
  | negativeBound (bound : Int)
  /-- The lower bound is above the upper one. -/
  | invertedRange (min max : Int)
  /-- A step of zero. -/
  | zeroStep
  /-- A number of decimal places out of range. -/
  | decimalPlaces (places : Int)
  /-- Both weights are zero. -/
  | zeroWeight
  /-- Too many repetitions. -/
  | repeatLimit (count : Int)
  deriving DecidableEq, Repr, Inhabited

/-- The wording of a fault. -/
def RuleFault.message : RuleFault → String
  | .negativeBound bound => "negative bound " ++ toString bound
  | .invertedRange min max => "min " ++ toString min ++ " exceeds max " ++ toString max
  | .zeroStep => "step must be non-zero"
  | .decimalPlaces places =>
    "decimal places " ++ toString places ++ " outside 0..=" ++ toString maxPlaces
  | .zeroWeight => "boolean weights must sum to a positive value"
  | .repeatLimit count => "repeat count " ++ toString count ++ " exceeds " ++ toString maxRepeat

namespace Rule

/-! ## Single checks -/

/-- The fault of a bound below zero. -/
def negative? (bound : Int) : Option RuleFault :=
  if bound < 0 then some (.negativeBound bound) else none

theorem negative?_eq_none_iff {bound : Int} : negative? bound = none ↔ 0 ≤ bound := by
  simp [negative?]

/-- The fault of bounds in the wrong order. -/
def inverted? (min max : Int) : Option RuleFault :=
  if max < min then some (.invertedRange min max) else none

theorem inverted?_eq_none_iff {min max : Int} : inverted? min max = none ↔ min ≤ max := by
  simp [inverted?]

/-- The fault of too many repetitions. -/
def tooMany? (count : Int) : Option RuleFault :=
  if maxRepeat < count then some (.repeatLimit count) else none

theorem tooMany?_eq_none_iff {count : Int} : tooMany? count = none ↔ count ≤ maxRepeat := by
  simp [tooMany?]

/-- The fault of a number of decimal places out of range. -/
def badPlaces? (places : Int) : Option RuleFault :=
  if 0 ≤ places ∧ places ≤ maxPlaces then none else some (.decimalPlaces places)

theorem badPlaces?_eq_none_iff {places : Int} :
    badPlaces? places = none ↔ 0 ≤ places ∧ places ≤ maxPlaces := by
  simp [badPlaces?]

/-- The fault of a range of decimal places. -/
def badPlacesRange? (min max : Int) : Option RuleFault :=
  badPlaces? min <|> badPlaces? max <|> inverted? min max

theorem badPlacesRange?_eq_none_iff {min max : Int} :
    badPlacesRange? min max = none ↔
      (0 ≤ min ∧ min ≤ maxPlaces) ∧ (0 ≤ max ∧ max ≤ maxPlaces) ∧ min ≤ max := by
  simp [badPlacesRange?, badPlaces?_eq_none_iff, inverted?_eq_none_iff]

/-- The fault of a step of zero. -/
def badStep? (step : Int) : Option RuleFault :=
  if step = 0 then some .zeroStep else none

theorem badStep?_eq_none_iff {step : Int} : badStep? step = none ↔ step ≠ 0 := by
  simp [badStep?]

/-- The fault of two weights whose sum is not above zero. The sum stops at the ends of the range. -/
def badSum? (first second : Int) : Option RuleFault :=
  if 0 < Integer.saturate (first + second) then none else some .zeroWeight

/-- Stopping at an end of the range does not change whether a sum is above zero. -/
theorem badSum?_eq_none_iff {first second : Int} :
    badSum? first second = none ↔ 0 < first + second := by
  simp [badSum?]

/-! ## Validation -/

/-- The first fault of a rule. Numbers of members have no upper limit, because an object has only
so many. -/
def fault? : Rule → Option RuleFault
  | .stringRange min max => negative? min <|> inverted? min max <|> tooMany? max
  | .arrayRepeatRange min max => negative? min <|> inverted? min max <|> tooMany? max
  | .stringCount count => negative? count <|> tooMany? count
  | .arrayRepeatCount count => negative? count <|> tooMany? count
  | .objectRange min max => negative? min <|> negative? max <|> inverted? min max
  | .objectCount count => negative? count
  | .numberIncrement step => badStep? step
  | .arrayPickSequential step => badStep? step
  | .numberRange min max => inverted? min max
  | .floatRange min max minPlaces maxPlaces =>
    inverted? min max <|> badPlacesRange? minPlaces maxPlaces
  | .floatCount _ minPlaces maxPlaces => badPlacesRange? minPlaces maxPlaces
  | .floatRangeFixed min max places => inverted? min max <|> badPlaces? places
  | .floatFixed _ places => badPlaces? places
  | .booleanRandom => none
  | .arrayPickOne => none
  | .booleanWeighted min max =>
    negative? min <|> negative? max <|> badSum? min max

/-- A rule without fault. -/
def isValid (rule : Rule) : Bool := rule.fault?.isNone

/-! ## Admissible rules -/

/-- The numbers of a rule make sense. Repetitions and picks have a limit; numbers of members have
none, and neither have the ends of a range of numbers. -/
def IsAdmissible : Rule → Prop
  | .stringRange min max | .arrayRepeatRange min max => 0 ≤ min ∧ min ≤ max ∧ max ≤ 10000
  | .stringCount count | .arrayRepeatCount count => 0 ≤ count ∧ count ≤ 10000
  | .objectRange min max => 0 ≤ min ∧ min ≤ max
  | .objectCount count => 0 ≤ count
  | .numberIncrement step | .arrayPickSequential step => step ≠ 0
  | .numberRange min max => min ≤ max
  | .floatRange min max minPlaces maxPlaces =>
    min ≤ max ∧ 0 ≤ minPlaces ∧ minPlaces ≤ maxPlaces ∧ maxPlaces ≤ 10
  | .floatCount _ minPlaces maxPlaces => 0 ≤ minPlaces ∧ minPlaces ≤ maxPlaces ∧ maxPlaces ≤ 10
  | .floatRangeFixed min max places => min ≤ max ∧ 0 ≤ places ∧ places ≤ 10
  | .floatFixed _ places => 0 ≤ places ∧ places ≤ 10
  | .booleanWeighted first second => 0 ≤ first ∧ 0 ≤ second ∧ 0 < first + second
  | .booleanRandom | .arrayPickOne => True

/-- **The rules without fault** are the admissible ones.

**Proof sketch.** Each check passes exactly when one condition of an admissible rule holds, and
their order does not matter for whether all of them pass. -/
theorem fault?_eq_none_iff {rule : Rule} : rule.fault? = none ↔ rule.IsAdmissible := by
  cases rule
  case booleanRandom | arrayPickOne => exact iff_of_true rfl trivial
  case numberIncrement | arrayPickSequential => exact badStep?_eq_none_iff
  case numberRange => exact inverted?_eq_none_iff
  case objectCount => exact negative?_eq_none_iff
  case floatFixed => exact badPlaces?_eq_none_iff
  -- The other rules are checked more than once, in an order that the outcome does not depend on.
  all_goals
    simp only [fault?, IsAdmissible, Option.orElse_eq_orElse, Option.orElse_eq_or,
      Option.or_eq_none_iff, negative?_eq_none_iff, inverted?_eq_none_iff, tooMany?_eq_none_iff,
      badPlaces?_eq_none_iff, badPlacesRange?_eq_none_iff, badSum?_eq_none_iff, maxRepeat,
      maxPlaces]
  -- What is left are ranges in which both ends are checked, and not only the one that matters.
  case objectRange | floatRange | floatCount => omega

instance : DecidablePred IsAdmissible := fun _ => decidable_of_iff _ fault?_eq_none_iff

theorem isValid_iff {rule : Rule} : rule.isValid = true ↔ rule.IsAdmissible := by
  rw [isValid, Option.isNone_iff_eq_none, fault?_eq_none_iff]

end Rule

end Specimen
