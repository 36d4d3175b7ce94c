import Specimen.Decimal.Places
import Specimen.Generation.Step
import Specimen.Json.Printer
import Specimen.Rule.Basic

set_option autoImplicit false

/-!
# Executing rules

A rule with a fault is no rule: the value is then generated as if it had none. A rule on a value of
another kind than the rule is for leaves the value as it is, and does not generate its parts.

## Main definitions

* `Specimen.Rule.repeatText` — a text repeated.
* `Specimen.Rule.decimal` — a number with random decimal places.
* `Specimen.Rule.apply` — what a rule without fault makes of a value.
* `Specimen.Rule.execute` — the same for any rule, or none.
-/

namespace Specimen.Rule

/-! ## Texts and numbers -/

/-- The text of a value, repeated; a count outside the limit leaves the value alone. No text is so
long that the bytes of its copies could not be counted. -/
def repeatText (value : Json) (count : Int) : Json :=
  if 0 ≤ count ∧ count ≤ maxRepeat then
    .str (String.ofList (List.replicate count.toNat value.asText.toList).flatten)
  else value

/-- What a running counter starts at: the integer part of a number, and otherwise the step. -/
def counterSeed (value : Json) (step : Int) : Int :=
  match value with
  | .num number => number.toInt?.getD number.truncate
  | _ => step

/-- The running number of a place. -/
def increment (value : Json) (step : Int) (scope : Scope) : Gen Json :=
  Json.ofInt <$> Gen.advance scope.path (counterSeed value step) step

/-- An integer with a random fraction of so many places, at most ten, rounded to them. -/
def decimal (value : Json) (whole places : Int) : Gen Json := do
  let count := (max 0 (min places maxPlaces)).toNat
  let scale : Int := Nat.pow 10 count
  let fraction ← Gen.draw (Draw.integer 0 (scale - 1))
  let sum := Decimal.ofInt whole + Decimal.ofInt fraction / Decimal.ofInt scale
  match Decimal.roundToPlaces sum count with
  | some rounded => pure (.num (.float rounded))
  | none => pure value

/-- The share of the first of two weights. -/
def weight (first second : Int) : Float :=
  Decimal.ofInt first / (Decimal.ofInt first + Decimal.ofInt second)

/-! ## Objects and arrays -/

/-- So many random members of an object, in their order. -/
def pickMembers (value : Json) (parts : Parts) (count : Int) : Producer := fun scope =>
  match value with
  | .obj members => do
    let positions ← Gen.draw (Draw.sample parts.sampler members.length count.toNat)
    parts.restricted positions scope
  | other => pure other

/-- One random item of an array. -/
def pickItem (items : List Producer) : Producer := fun scope => do
  let position ← Gen.draw (Draw.index items.length)
  (items.getD position fun _ => pure .null) scope

/-- What keeps the positions of picks in turn apart from running counters. -/
def positionSuffix : String := "[index]"

/-- The next item of an array in turn, round and round. -/
def pickInTurn (items : List Producer) (step : Int) : Producer := fun scope => do
  let turn ← Gen.advance (scope.path ++ positionSuffix) 0 step
  (items.getD (turn % items.length).toNat fun _ => pure .null) scope

/-- So many random picks from an array, at most as many as the limit allows. -/
def repeatPicks (value : Json) (parts : Parts) (count : Int) : Producer := fun scope =>
  match value with
  | .arr [] => pure (.arr [])
  | .arr _ =>
    Json.arr <$> many (max 0 (min count maxRepeat)).toNat (pickItem parts.items scope)
  | other => pure other

/-- A pick from an array that has items; any other value stays. -/
def pickFrom (value : Json) (pick : Producer) : Producer := fun scope =>
  match value with
  | .arr (_ :: _) => pick scope
  | other => pure other

/-! ## Rules -/

/-- What a rule without fault makes of a value. -/
def apply (rule : Rule) (value : Json) (parts : Parts) : Producer := fun scope =>
  match rule with
  | .stringRange min max => repeatText value <$> Gen.draw (Draw.integer min max)
  | .stringCount count => pure (repeatText value count)
  | .numberIncrement step => increment value step scope
  | .numberRange min max => Json.ofInt <$> Gen.draw (Draw.integer min max)
  | .floatRange min max minPlaces maxPlaces => do
    let whole ← Gen.draw (Draw.integer min max)
    let places ← Gen.draw (Draw.integer minPlaces maxPlaces)
    decimal value whole places
  | .floatCount count minPlaces maxPlaces => do
    let places ← Gen.draw (Draw.integer minPlaces maxPlaces)
    decimal value count places
  | .floatRangeFixed min max places => do
    let whole ← Gen.draw (Draw.integer min max)
    decimal value whole places
  | .floatFixed count places => decimal value count places
  | .booleanRandom => Json.bool <$> Gen.draw Draw.boolean
  | .booleanWeighted min max => Json.bool <$> Gen.draw (Draw.chance (weight min max))
  | .objectCount count => pickMembers value parts count scope
  | .objectRange min max => do
    let count ← Gen.draw (Draw.integer min max)
    pickMembers value parts count scope
  | .arrayPickOne => pickFrom value (pickItem parts.items) scope
  | .arrayPickSequential step => pickFrom value (pickInTurn parts.items step) scope
  | .arrayRepeatRange min max => do
    let count ← Gen.draw (Draw.integer min max)
    repeatPicks value parts count scope
  | .arrayRepeatCount count => repeatPicks value parts count scope

/-- The value that a rule, or none, makes of a value in a scope. -/
def execute (rule : Option Rule) (value : Json) (parts : Parts) : Producer :=
  match rule with
  | none => parts.whole
  | some rule => if rule.isValid then rule.apply value parts else parts.whole

end Specimen.Rule
