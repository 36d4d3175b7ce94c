import Specimen.Json.Basic
import Specimen.Decimal.Shortest

set_option autoImplicit false

/-!
# Printing JSON

The compact form has no blanks; the pretty form puts every item and member on a line of its own,
indented by two blanks for each level, and leaves empty arrays and objects closed.

## Main definitions

* `Specimen.Json.compact`, `Specimen.Json.prettyAt` — the two printed forms.
* `Specimen.Json.quote` — a text between quotation marks.
* `Specimen.Json.numberLayout` — how floating-point numbers are written.
* `Specimen.Json.asText` — a text as it is, any other value in compact form.
-/

namespace Specimen

namespace Json

/-! ## Scalars -/

/-- Floating-point numbers are positional from `1e-5` to below `1e16`, where an integral one ends
in `.0`; elsewhere the exponent has a sign. -/
def numberLayout : Decimal.Layout := ⟨-5, 16, ['.', '0'], ['+']⟩

/-- The decimal numeral of an integer. -/
def integerText (n : Int) : List Char :=
  if n < 0 then '-' :: Decimal.natDigits n.natAbs else Decimal.natDigits n.natAbs

/-- The text of a number. One that is not finite has no numeral and is written as no value. -/
def numberText : Number → List Char
  | .int n => integerText n
  | .float x =>
    match Decimal.Dyadic.ofFloat? x with
    | some exact => numberLayout.render exact
    | none => ['n', 'u', 'l', 'l']

/-- A hexadecimal digit, in small letters. -/
def hexDigit (n : Nat) : Char :=
  if n < 10 then Char.ofNat ('0'.toNat + n) else Char.ofNat ('a'.toNat + (n - 10))

/-- The written form of one character of a text. Quotation marks, backslashes and the control
characters below the blank are escaped; everything else stands for itself. -/
def escape (c : Char) : List Char :=
  if c = '"' then ['\\', '"']
  else if c = '\\' then ['\\', '\\']
  else if c = '\x08' then ['\\', 'b']
  else if c = '\x0c' then ['\\', 'f']
  else if c = '\n' then ['\\', 'n']
  else if c = '\r' then ['\\', 'r']
  else if c = '\t' then ['\\', 't']
  else if c.toNat < 0x20 then
    ['\\', 'u', '0', '0', hexDigit (c.toNat / 16), hexDigit (c.toNat % 16)]
  else [c]

/-- A text between quotation marks. -/
def quote (text : String) : List Char := '"' :: (text.toList.flatMap escape ++ ['"'])

/-- The text of a truth value. -/
def boolText (b : Bool) : List Char :=
  if b then ['t', 'r', 'u', 'e'] else ['f', 'a', 'l', 's', 'e']

/-! ## The compact form -/

mutual

/-- A value without blanks. -/
def compact : Json → List Char
  | .null => ['n', 'u', 'l', 'l']
  | .bool b => boolText b
  | .num n => numberText n
  | .str text => quote text
  | .arr items => '[' :: (compactItems items ++ [']'])
  | .obj members => '{' :: (compactMembers members ++ ['}'])

/-- Items with commas between them. -/
def compactItems : List Json → List Char
  | [] => []
  | [item] => compact item
  | item :: items => compact item ++ ',' :: compactItems items

/-- Members with commas between them. -/
def compactMembers : List (String × Json) → List Char
  | [] => []
  | [(name, value)] => quote name ++ ':' :: compact value
  | (name, value) :: members =>
    quote name ++ ':' :: (compact value ++ ',' :: compactMembers members)

end

/-! ## The pretty form -/

/-- A new line, indented to a level. -/
def lineAt (level : Nat) : List Char := '\n' :: List.replicate (2 * level) ' '

mutual

/-- A value whose items and members stand on lines of their own, one level further in. -/
def prettyAt (level : Nat) : Json → List Char
  | .arr (item :: items) =>
    '[' :: (prettyItems (level + 1) (item :: items) ++ (lineAt level ++ [']']))
  | .obj (member :: members) =>
    '{' :: (prettyMembers (level + 1) (member :: members) ++ (lineAt level ++ ['}']))
  | .null => compact .null
  | .bool b => compact (.bool b)
  | .num n => compact (.num n)
  | .str text => compact (.str text)
  | .arr [] => ['[', ']']
  | .obj [] => ['{', '}']

/-- Items on lines of their own, with commas between them. -/
def prettyItems (level : Nat) : List Json → List Char
  | [] => []
  | [item] => lineAt level ++ prettyAt level item
  | item :: items => lineAt level ++ (prettyAt level item ++ ',' :: prettyItems level items)

/-- Members on lines of their own, with commas between them. -/
def prettyMembers (level : Nat) : List (String × Json) → List Char
  | [] => []
  | [(name, value)] => lineAt level ++ (quote name ++ ':' :: ' ' :: prettyAt level value)
  | (name, value) :: members =>
    lineAt level ++
      (quote name ++ ':' :: ' ' :: (prettyAt level value ++ ',' :: prettyMembers level members))

end

/-! ## As strings -/

/-- The compact form as a string. -/
def render (value : Json) : String := String.ofList (compact value)

/-- The pretty form as a string. -/
def renderPretty (value : Json) : String := String.ofList (prettyAt 0 value)

/-- A text as it is, any other value in compact form. -/
def asText : Json → String
  | .str text => text
  | value => value.render

end Json

end Specimen
