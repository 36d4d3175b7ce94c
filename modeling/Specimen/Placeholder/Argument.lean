import Specimen.Decimal.Numeral
import Specimen.Json.Basic
import Specimen.Random.Phone
import Specimen.Text.Blank

set_option autoImplicit false

/-!
# Arguments of placeholders

The arguments of a placeholder are written between parentheses with commas. Each is read by its
looks: a quoted text, an integer, a finite number, a truth value, something a coercer knows, or else
the text as it stands.

## Main definitions

* `Specimen.Coercer` — gives tokens a value of their own.
* `Specimen.Coercer.phoneKinds` — the coercer of codes and names of kinds of phone numbers.
* `Specimen.Argument.unquote?` — the inside of a quoted token.
* `Specimen.Argument.read` — the value of a token.
* `Specimen.Argument.readList` — the values of a list of arguments.
-/

namespace Specimen

/-- Gives some tokens a value of their own. -/
abbrev Coercer := String → Option Json

namespace Coercer

/-- The coercer of codes and names of kinds of phone numbers. -/
def phoneKinds : Coercer := fun token =>
  (PhoneKind.ofCode? token).map fun kind => .str kind.name

/-- The coercer of one token, in exactly this spelling. -/
def exact (expected : String) (value : Json) : Coercer := fun token =>
  if token = expected then some value else none

end Coercer

namespace Argument

/-- The inside of a token between two quotes of one sort. -/
def between? (quote : Char) : List Char → Option (List Char)
  | first :: rest =>
    if first = quote ∧ rest.getLast? = some quote then some rest.dropLast else none
  | [] => none

/-- The inside of a token between double or single quotes. -/
def unquote? (token : List Char) : Option (List Char) :=
  between? '"' token <|> between? '\'' token

/-- The finite number that a token writes. -/
def readFloat? (token : List Char) : Option Json := (Decimal.read? token).bind Json.ofFloat?

/-- The truth value that a token writes. -/
def readBool? (token : List Char) : Option Json :=
  if token = ['t', 'r', 'u', 'e'] then some (.bool true)
  else if token = ['f', 'a', 'l', 's', 'e'] then some (.bool false)
  else none

/-- The value of the first coercer that knows a token. -/
def coerce? (coercers : List Coercer) (token : String) : Option Json :=
  coercers.findSome? fun coercer => coercer token

/-- The value of a token. -/
def read (coercers : List Coercer) (token : List Char) : Json :=
  match unquote? token with
  | some inner => .str (String.ofList inner)
  | none =>
    match Integer.read? token with
    | some n => .ofInt n
    | none =>
      ((readFloat? token <|> readBool? token) <|> coerce? coercers (String.ofList token)).getD
        (.str (String.ofList token))

/-- The values of a list of arguments; blanks alone are no arguments. -/
def readList (coercers : List Coercer) (text : List Char) : List Json :=
  if (Text.trim text).isEmpty then []
  else (text.splitOn ',').map fun token => read coercers (Text.trim token)

end Argument

end Specimen
