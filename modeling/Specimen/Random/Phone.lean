import Specimen.Random.Pool
import Specimen.Text.Case

set_option autoImplicit false

/-!
# Phone numbers

A phone number follows a format in which every number sign is a digit. A kind of number puts one of
its dialling prefixes in front.

## Main definitions

* `Specimen.PhoneKind` — the kinds of phone numbers.
* `Specimen.PhoneKind.read?`, `Specimen.PhoneKind.ofCode?` — the kind of a name, and of a short
  code.
* `Specimen.Draw.phone` — a phone number.
-/

namespace Specimen

/-- The kinds of phone numbers. -/
inductive PhoneKind where
  /-- Mobile phones. -/
  | mobile
  /-- Lines to a building. -/
  | landline
  /-- Calls that the called pays for. -/
  | tollFree
  /-- Calls that pay the called. -/
  | premium
  deriving DecidableEq, Repr

namespace PhoneKind

/-- The name of a kind. -/
def name : PhoneKind → String
  | .mobile => "mobile"
  | .landline => "landline"
  | .tollFree => "toll_free"
  | .premium => "premium"

/-- The kind of a name in small letters with underscores. -/
def ofName? (name : String) : Option PhoneKind :=
  if name = "mobile" then some .mobile
  else if name = "landline" then some .landline
  else if name = "toll_free" ∨ name = "tollfree" then some .tollFree
  else if name = "premium" then some .premium
  else none

/-- The kind of a name in letters of either case, with dashes or underscores. -/
def read? (text : String) : Option PhoneKind :=
  ofName? (String.ofList ((Text.asciiLower text.toList).map fun c => if c = '-' then '_' else c))

/-- The text after a beginning, when it begins so. -/
def after? (beginning text : List Char) : Option (List Char) :=
  if beginning.isPrefixOf text then some (text.drop beginning.length) else none

/-- The kind of a short code or a name, perhaps qualified as a phone type. -/
def ofCode? (text : String) : Option PhoneKind :=
  let small := Text.asciiLower text.toList
  let code := ((after? "pt.".toList small <|> after? "phonetype.".toList small).getD small)
  if code = ['m'] then some .mobile
  else if code = ['l'] then some .landline
  else if code = ['t', 'f'] then some .tollFree
  else if code = ['p'] then some .premium
  else read? (String.ofList code)

/-- The dialling prefixes of a kind. -/
def prefixes : PhoneKind → List String
  | .mobile => ["134", "135", "136", "137", "138", "139"]
  | .landline => ["010", "020", "021", "022", "023", "024"]
  | .tollFree => ["800", "888", "877", "866", "855", "844"]
  | .premium => ["900", "976", "970", "540", "550", "560"]

end PhoneKind

namespace Draw

/-- A digit in place of a number sign; other characters stay. -/
def phoneCharacter (c : Char) : Draw Char :=
  if c = '#' then do
    let digit ← below .w32 10
    pure (Char.ofNat ('0'.toNat + digit))
  else pure c

/-- A phone number in a format, by default ten digits, of which a kind supplies the first three. -/
def phone (format : Option String) (kind : Option PhoneKind) : Draw String := do
  let format := format.getD (if kind.isSome then "###-####" else "###-###-####")
  let digits ← forEach phoneCharacter format.toList
  match kind with
  | none => pure (String.ofList digits)
  | some kind =>
    let position ← index kind.prefixes.length
    pure (kind.prefixes.getD position "" ++ "-" ++ String.ofList digits)

end Draw

end Specimen
