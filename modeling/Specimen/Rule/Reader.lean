import Specimen.Rule.Basic
import Specimen.Json.Basic
import Specimen.Text.Split

set_option autoImplicit false

/-!
# Reading rules

The same rule text means different rules on different kinds of values: `3` repeats a text, keeps
three members of an object, or makes three picks from an array. A text that is no rule is no error;
the value is then generated without one.

## Main definitions

* `Specimen.Rule.read?` — the rule that a text writes for a kind of value.
* `Specimen.Rule.readRange?`, `Specimen.Rule.Extent.read?` — the parts of a rule text.
-/

namespace Specimen.Rule

/-! ## Parts -/

/-- Two integers with a dash between them. -/
def readRange? (text : List Char) : Option (Int × Int) :=
  match text.splitOn '-' with
  | [low, high] => do
    let min ← Integer.read? low
    let max ← Integer.read? high
    some (min, max)
  | _ => none

/-- One side of a rule with a point: a range or a count. -/
inductive Extent where
  /-- Two bounds. -/
  | range (min max : Int)
  /-- One number. -/
  | count (count : Int)

/-- A range when the text has a dash, and a count otherwise. -/
def Extent.read? (text : List Char) : Option Extent :=
  if '-' ∈ text then (readRange? text).map fun (min, max) => .range min max
  else (Integer.read? text).map .count

/-! ## Rules -/

/-- A rule with a point: the extents of the integer part and of the number of decimal places. -/
def readDecimal? (text : List Char) : Option Rule := do
  let (whole, places) ← Text.cut? '.' text
  if '.' ∈ places then none
  match ← Extent.read? whole, ← Extent.read? places with
  | .range min max, .range minPlaces maxPlaces => some (.floatRange min max minPlaces maxPlaces)
  | .count count, .range minPlaces maxPlaces => some (.floatCount count minPlaces maxPlaces)
  | .range min max, .count places => some (.floatRangeFixed min max places)
  | .count count, .count places => some (.floatFixed count places)

/-- The rule of two bounds. -/
def ofRange (min max : Int) : Kind → Rule
  | .string => .stringRange min max
  | .number => .numberRange min max
  | .boolean => .booleanWeighted min max
  | .object => .objectRange min max
  | .array => .arrayRepeatRange min max

/-- The rule of one number. A truth value only knows one toss of a coin, and a single pick takes
the place of the array. -/
def ofCount? (count : Int) : Kind → Option Rule
  | .string => some (.stringCount count)
  | .number => some (.numberRange count count)
  | .boolean => if count = 1 then some .booleanRandom else none
  | .object => some (.objectCount count)
  | .array => some (if count = 1 then .arrayPickOne else .arrayRepeatCount count)

/-- The rule of a step; on anything but an array it is a running number. -/
def ofStep (step : Int) : Kind → Rule
  | .array => .arrayPickSequential step
  | _ => .numberIncrement step

/-- The rule that a text writes for a kind of value. A plus sign makes a step, which is one when
no integer follows; then a point, then a dash decide the shape. -/
def read? (text : List Char) (kind : Kind) : Option Rule :=
  match text with
  | '+' :: step => some (ofStep ((Integer.read? step).getD 1) kind)
  | _ =>
    if '.' ∈ text then readDecimal? text
    else if '-' ∈ text then (readRange? text).map fun (min, max) => ofRange min max kind
    else (Integer.read? text).bind fun count => ofCount? count kind

end Specimen.Rule
