import Specimen.Text.Property

set_option autoImplicit false

/-!
# Texts and records in descriptions

Descriptions are for people to read: a text stands between quotation marks with everything that
would not show escaped, a list between brackets, and a record between braces after its name.

## Main definitions

* `Specimen.Text.describe` — a text between quotation marks.
* `Specimen.Text.describeList`, `Specimen.Text.describeRecord` — lists and records.
-/

namespace Specimen.Text

/-- The hexadecimal digits of a number, in small letters. -/
def hexDigits (n : Nat) : List Char := Nat.toDigits 16 n

/-- A character in a description. -/
def describeChar (c : Char) : List Char :=
  if c = '"' then ['\\', '"']
  else if c = '\\' then ['\\', '\\']
  else if c = '\x00' then ['\\', '0']
  else if c = '\t' then ['\\', 't']
  else if c = '\n' then ['\\', 'n']
  else if c = '\r' then ['\\', 'r']
  else if isHidden c then '\\' :: 'u' :: '{' :: (hexDigits c.toNat ++ ['}'])
  else [c]

/-- A text in a description. -/
def describe (text : String) : String :=
  String.ofList ('"' :: (text.toList.flatMap describeChar ++ ['"']))

/-- A list in a description. -/
def describeList (items : List String) : String := "[" ++ ", ".intercalate items ++ "]"

/-- A record in a description. -/
def describeRecord (name : String) (fields : List String) : String :=
  name ++ " \x7b " ++ ", ".intercalate fields ++ " \x7d"

end Specimen.Text
