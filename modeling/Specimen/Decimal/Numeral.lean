import Specimen.Decimal.Binary64
import Specimen.Integer
import Specimen.Text.Case

set_option autoImplicit false

/-!
# Reading decimal numerals as floating-point numbers

A numeral is a significand with a power of ten. Its value is exact; the number it denotes is the
nearest one.

## Main definitions

* `Specimen.Decimal.ofScaled` — the number nearest to `± digits · 10 ^ exponent`.
* `Specimen.Decimal.read?` — the number that a text writes: digits with an optional point and an
  optional exponent, or a word for an infinity or for no number.
-/

namespace Specimen.Decimal

open Specimen.Integer (isDigit ofDigits)

/-- A number too large for all that are finite. -/
def overflow : Nat := Nat.pow 2 1100

/-- The number nearest to `± digits · 10 ^ exponent`. Far outside the range of exponents the answer
is an infinity or a zero, and no power is computed. -/
def ofScaled (negative : Bool) (digits : Nat) (exponent : Int) : Float :=
  let size := (Nat.toDigits 10 digits).length
  if digits = 0 then nearest negative 0 1
  else if 400 < size + exponent then nearest negative overflow 1
  else if size + exponent < -400 then nearest negative 0 1
  else nearest negative (digits * Nat.pow 10 exponent.toNat) (Nat.pow 10 (-exponent).toNat)

/-- An exponent after its mark: an optional sign and at least one digit, up to the end. -/
def readExponent? : List Char → Option Int
  | '-' :: digits => (Integer.readNat? digits).map fun n => -(n : Int)
  | '+' :: digits => (Integer.readNat? digits).map fun n => (n : Int)
  | digits => (Integer.readNat? digits).map fun n => (n : Int)

/-- A numeral without sign: digits, perhaps with a point among or beside them, and an optional
exponent. -/
def readUnsigned? (negative : Bool) (text : List Char) : Option Float := do
  let whole := text.takeWhile isDigit
  let rest := text.dropWhile isDigit
  let (fraction, rest) :=
    match rest with
    | '.' :: after => (after.takeWhile isDigit, after.dropWhile isDigit)
    | other => ([], other)
  if whole = [] ∧ fraction = [] then none
  let exponent ←
    match rest with
    | [] => some 0
    | mark :: power => if mark = 'e' ∨ mark = 'E' then readExponent? power else none
  some (ofScaled negative (ofDigits (whole ++ fraction)) (exponent - fraction.length))

/-- The words that stand for an infinity. -/
def infinityWords : List (List Char) := ["inf".toList, "infinity".toList]

/-- The word that stands for no number. -/
def undefinedWord : List Char := "nan".toList

/-- A numeral or word without its sign. -/
def readMagnitude? (negative : Bool) (text : List Char) : Option Float :=
  let word := Text.asciiLower text
  if infinityWords.any fun known => known = word then some (nearest negative overflow 1)
  else if word = undefinedWord then some (0.0 / 0.0)
  else readUnsigned? negative text

/-- The number that a text writes. -/
def read? : List Char → Option Float
  | '-' :: text => readMagnitude? true text
  | '+' :: text => readMagnitude? false text
  | text => readMagnitude? false text

end Specimen.Decimal
