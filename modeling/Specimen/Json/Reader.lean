import Specimen.Json.Basic
import Specimen.Decimal.Numeral

set_option autoImplicit false

/-!
# Reading JSON

The grammar is strict: no comments, no trailing commas, no raw control characters in texts, no
escapes of half a character. Arrays and objects nest at most 127 deep, and a reader for one level
is given the reader for the level below. When a name occurs twice in an object, the last value
stands in the first place.

## Main definitions

* `Specimen.Json.ofParts?` — the number of a numeral in parts.
* `Specimen.Json.readValue` — reads one value from the front of a text, up to a depth.
* `Specimen.Json.read?` — the value that a whole text writes.
* `Specimen.Json.readTemplate?` — the same for an object or an array only.
-/

namespace Specimen

namespace Json

open Specimen.Integer (isDigit ofDigits)

/-! ## Numbers -/

/-- The characters between tokens. -/
def isSpace (c : Char) : Bool := c == ' ' || c == '\t' || c == '\n' || c == '\r'

/-- The text without leading spaces. -/
def skipSpaces (text : List Char) : List Char := text.dropWhile isSpace

/-- A fraction at the front of a text: a point with at least one digit. Without a point there is no
fraction. -/
def readFraction : List Char → Option (List Char × List Char)
  | '.' :: rest =>
    if rest.takeWhile isDigit = [] then none
    else some (rest.takeWhile isDigit, rest.dropWhile isDigit)
  | rest => some ([], rest)

/-- The digits of an exponent at the front of a text, with its sign. -/
def readPowerDigits (negative : Bool) (text : List Char) : Option (Option Int × List Char) :=
  let digits := text.takeWhile isDigit
  if digits = [] then none
  else
    let n : Int := ofDigits digits
    some (some (if negative then -n else n), text.dropWhile isDigit)

/-- An exponent at the front of a text; without its mark there is none. -/
def readPower : List Char → Option (Option Int × List Char)
  | [] => some (none, [])
  | mark :: rest =>
    if mark = 'e' ∨ mark = 'E' then
      match rest with
      | '-' :: digits => readPowerDigits true digits
      | '+' :: digits => readPowerDigits false digits
      | digits => readPowerDigits false digits
    else some (none, mark :: rest)

/-- The greatest integer that sixty-four unsigned bits can hold. -/
def greatestInt : Int := 18446744073709551615

/-- A significand of sixty-four bits that goes on with digits, and how many digits are left out: the
first one for which there is no room, and all behind it. -/
def takeDigits (significand : Nat) : List Char → Nat × Nat
  | [] => (significand, 0)
  | digit :: rest =>
    let longer := significand * 10 + Integer.digitValue digit
    if longer ≤ greatestInt then takeDigits longer rest else (significand, rest.length + 1)

/-- A power of ten up to the greatest one that is finite. -/
def tenTo (exponent : Nat) : Float := Decimal.ofInt (Nat.pow 10 exponent)

/-- The number times a power of ten, rounded after each step: it is multiplied or divided by a power
that is finite, and divided more often when the exponent is too low for one step. Too large is a
failure. -/
def scale? (x : Float) (exponent : Int) : Option Float :=
  if exponent.natAbs ≤ 308 then
    if exponent < 0 then some (x / tenTo exponent.natAbs)
    else
      let y := x * tenTo exponent.natAbs
      if Decimal.isFinite y then some y else none
  else if x == 0 then some x
  else if exponent < 0 then scale? (x / tenTo 308) (exponent + 308)
  else none
termination_by exponent.natAbs

/-- The number of a numeral in parts. Without fraction and exponent it is an integer when sixty-four
bits can hold it; a negative zero is a floating-point number. -/
def ofParts? (negative : Bool) (whole fraction : List Char) (power : Option Int) : Option Number :=
  let n : Int := if negative then -(ofDigits whole : Int) else ofDigits whole
  if fraction = [] ∧ power = none ∧ ¬(negative ∧ n = 0) ∧ Integer.least ≤ n ∧ n ≤ greatestInt then
    some (.int n)
  else
    let (significand, more) := takeDigits 0 whole
    let (significand, left) := takeDigits significand fraction
    let exponent : Int := power.getD 0 + more + left - fraction.length
    (scale? (Decimal.ofInt significand) exponent).map fun x => .float (if negative then -x else x)

/-- A number without its sign at the front of a text: no zero before other digits. -/
def readUnsigned (negative : Bool) (text : List Char) : Option (Number × List Char) := do
  let whole := text.takeWhile isDigit
  if whole = [] ∨ (whole.head? = some '0' ∧ whole ≠ ['0']) then none
  let (fraction, rest) ← readFraction (text.dropWhile isDigit)
  let (power, rest) ← readPower rest
  let number ← ofParts? negative whole fraction power
  some (number, rest)

/-- A number at the front of a text. -/
def readNumber : List Char → Option (Number × List Char)
  | '-' :: rest => readUnsigned true rest
  | rest => readUnsigned false rest

/-! ## Texts -/

/-- The value of four hexadecimal digits. -/
def hexValue4? (a b c d : Char) : Option Nat := Integer.ofBase? 16 [a, b, c, d]

/-- The character of a single escape letter. -/
def escapeLetter? (c : Char) : Option Char :=
  if c = '"' then some '"'
  else if c = '\\' then some '\\'
  else if c = '/' then some '/'
  else if c = 'b' then some '\x08'
  else if c = 'f' then some '\x0c'
  else if c = 'n' then some '\n'
  else if c = 'r' then some '\r'
  else if c = 't' then some '\t'
  else none

/-- A unit of the upper half of a pair, which another unit has to follow. -/
def isHighUnit (n : Nat) : Bool := 0xD800 ≤ n && n ≤ 0xDBFF

/-- A unit of the lower half of a pair. -/
def isLowUnit (n : Nat) : Bool := 0xDC00 ≤ n && n ≤ 0xDFFF

/-- The rest of a text after its opening quotation mark, up to the closing one. A character outside
the first plane is escaped as a pair of units. -/
def readText : List Char → Option (List Char × List Char)
  | [] => none
  | '"' :: rest => some ([], rest)
  | '\\' :: 'u' :: a :: b :: c :: d :: rest =>
    match hexValue4? a b c d with
    | none => none
    | some unit =>
      if isHighUnit unit then
        match rest with
        | '\\' :: 'u' :: e :: f :: g :: h :: rest =>
          match hexValue4? e f g h with
          | none => none
          | some low =>
            if isLowUnit low then
              let point := 0x10000 + (unit - 0xD800) * 0x400 + (low - 0xDC00)
              (readText rest).map fun (text, rest) => (Char.ofNat point :: text, rest)
            else none
        | _ => none
      else if isLowUnit unit then none
      else (readText rest).map fun (text, rest) => (Char.ofNat unit :: text, rest)
  | '\\' :: letter :: rest =>
    match escapeLetter? letter with
    | none => none
    | some c => (readText rest).map fun (text, rest) => (c :: text, rest)
  | c :: rest =>
    if c.toNat < 0x20 ∨ c = '\\' then none
    else (readText rest).map fun (text, rest) => (c :: text, rest)

/-! ## Arrays and objects -/

/-- Reads a value from the front of a text and gives back the rest. -/
abbrev ValueReader := List Char → Option (Json × List Char)

/-- The items of an array after its bracket, at least one; each takes at least one character, so
the length of the text bounds their number. -/
def readItems (item : ValueReader) : Nat → List Char → Option (List Json × List Char)
  | 0, _ => none
  | bound + 1, text => do
    let (value, rest) ← item (skipSpaces text)
    match skipSpaces rest with
    | ',' :: rest =>
      let (values, rest) ← readItems item bound rest
      some (value :: values, rest)
    | ']' :: rest => some ([value], rest)
    | _ => none

/-- The members of an object after its brace, at least one. -/
def readMembers (item : ValueReader) :
    Nat → List Char → Option (List (String × Json) × List Char)
  | 0, _ => none
  | bound + 1, text =>
    match skipSpaces text with
    | '"' :: rest => do
      let (name, rest) ← readText rest
      match skipSpaces rest with
      | ':' :: rest =>
        let (value, rest) ← item (skipSpaces rest)
        match skipSpaces rest with
        | ',' :: rest =>
          let (members, rest) ← readMembers item bound rest
          some ((String.ofList name, value) :: members, rest)
        | '}' :: rest => some ([(String.ofList name, value)], rest)
        | _ => none
      | _ => none
    | _ => none

/-- A number, a text, a truth value or no value at the front of a text. -/
def readScalar : ValueReader
  | 'n' :: 'u' :: 'l' :: 'l' :: rest => some (.null, rest)
  | 't' :: 'r' :: 'u' :: 'e' :: rest => some (.bool true, rest)
  | 'f' :: 'a' :: 'l' :: 's' :: 'e' :: rest => some (.bool false, rest)
  | '"' :: rest => (readText rest).map fun (text, rest) => (.str (String.ofList text), rest)
  | text => (readNumber text).map fun (number, rest) => (.num number, rest)

/-- A value at the front of a text, nested at most as deep as given. -/
def readValue : Nat → ValueReader
  | 0, text => readScalar text
  | depth + 1, '[' :: rest =>
    match skipSpaces rest with
    | ']' :: rest => some (.arr [], rest)
    | _ =>
      (readItems (readValue depth) rest.length rest).map fun (items, rest) => (.arr items, rest)
  | depth + 1, '{' :: rest =>
    match skipSpaces rest with
    | '}' :: rest => some (.obj [], rest)
    | _ =>
      (readMembers (readValue depth) rest.length rest).map fun (members, rest) =>
        (.obj (Dictionary.ofEntries members), rest)
  | _ + 1, text => readScalar text

/-! ## Whole texts -/

/-- How deep arrays and objects may nest. -/
def maxDepth : Nat := 127

/-- The value that a whole text writes. -/
def read? (text : String) : Option Json :=
  match readValue maxDepth (skipSpaces text.toList) with
  | some (value, rest) => if skipSpaces rest = [] then some value else none
  | none => none

/-- Why a text is no template. -/
inductive TemplateError where
  /-- The text is not JSON. -/
  | notJson
  /-- The top level is a scalar of the named kind. -/
  | scalar (kindName : String)
  deriving DecidableEq, Repr

/-- The wording of an error about the top level. -/
def TemplateError.message : TemplateError → String
  | .notJson => "not JSON"
  | .scalar kindName =>
    "invalid template: top-level template must be an object or array, found " ++ kindName

/-- The template that a text writes: an object or an array. -/
def readTemplate? (text : String) : Except TemplateError Json :=
  match read? text with
  | none => .error .notJson
  | some (.obj members) => .ok (.obj members)
  | some (.arr items) => .ok (.arr items)
  | some other => .error (.scalar other.kindName)

end Json

end Specimen
