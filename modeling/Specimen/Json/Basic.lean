import Specimen.Dictionary
import Specimen.Integer
import Specimen.Decimal.Binary64

set_option autoImplicit false

/-!
# JSON values

Templates and generated data are JSON values. An object keeps its members in order, and a number
remembers whether it is an integer or a floating-point number, because `1` and `1.0` are printed
differently.

## Main definitions

* `Specimen.Number`, `Specimen.Json` — numbers and values.
* `Specimen.Kind` — the kinds of values that a rule can decorate; `null` has none.
* `Specimen.Number.toInt?`, `Specimen.Number.toFloat` — numeric readings of a number.
* `Specimen.Json.depth` — how deeply arrays and objects are nested.
-/

namespace Specimen

/-- A number. Integers lie between the least signed and the greatest unsigned one of sixty-four
bits; floating-point numbers are finite. -/
inductive Number where
  /-- An integer. -/
  | int (value : Int)
  /-- A floating-point number. -/
  | float (value : Float)
  deriving Inhabited

/-- A value: the members of an object are in order. -/
inductive Json where
  /-- No value. -/
  | null
  /-- A truth value. -/
  | bool (value : Bool)
  /-- A number. -/
  | num (value : Number)
  /-- A text. -/
  | str (value : String)
  /-- A list of values. -/
  | arr (items : List Json)
  /-- Named values. -/
  | obj (members : List (String × Json))
  deriving Inhabited

/-! ## Kinds -/

/-- The kinds of values that a rule can decorate. -/
inductive Kind where
  /-- Texts. -/
  | string
  /-- Numbers. -/
  | number
  /-- Truth values. -/
  | boolean
  /-- Objects. -/
  | object
  /-- Arrays. -/
  | array
  deriving DecidableEq, Repr, Inhabited

/-- The name of a kind. -/
def Kind.name : Kind → String
  | .string => "string"
  | .number => "number"
  | .boolean => "boolean"
  | .object => "object"
  | .array => "array"

namespace Json

/-- The kind of a value; `null` has none. -/
def kind? : Json → Option Kind
  | .null => none
  | .bool _ => some .boolean
  | .num _ => some .number
  | .str _ => some .string
  | .arr _ => some .array
  | .obj _ => some .object

/-- The name of the kind of a value, `null` included. -/
def kindName (value : Json) : String :=
  match value.kind? with
  | some kind => kind.name
  | none => "null"

/-- An integer as a value. -/
def ofInt (n : Int) : Json := .num (.int n)

/-- A floating-point number as a value, when it is finite. -/
def ofFloat? (x : Float) : Option Json :=
  if Decimal.isFinite x then some (.num (.float x)) else none

mutual

/-- How deeply arrays and objects are nested in a value. -/
def depth : Json → Nat
  | .arr items => depthItems items + 1
  | .obj members => depthMembers members + 1
  | _ => 0

/-- The depth of the deepest item. -/
def depthItems : List Json → Nat
  | [] => 0
  | item :: items => max (depth item) (depthItems items)

/-- The depth of the deepest member. -/
def depthMembers : List (String × Json) → Nat
  | [] => 0
  | (_, value) :: members => max (depth value) (depthMembers members)

end

end Json

/-! ## Numeric readings -/

namespace Number

/-- The value as a signed integer of sixty-four bits, without conversion. -/
def toInt? : Number → Option Int
  | .int n => Integer.check? n
  | .float _ => none

/-- The nearest floating-point number. -/
def toFloat : Number → Float
  | .int n => Decimal.ofInt n
  | .float x => x

/-- The integer part, or the nearest end of the range of sixty-four signed bits. -/
def truncate : Number → Int
  | .int n => Integer.saturate n
  | .float x => Integer.saturate (Decimal.truncate x)

/-- A number without fraction as a signed integer of sixty-four bits; outside the range the nearest
end. -/
def toWhole? : Number → Option Int
  | .int n => some (Integer.saturate n)
  | .float x => (Decimal.integral? x).map Integer.saturate

end Number

end Specimen
