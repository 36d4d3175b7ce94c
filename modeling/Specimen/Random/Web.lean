import Specimen.Random.Pool
import Specimen.Json.Printer

set_option autoImplicit false

/-!
# Random addresses and identifiers

## Main definitions

* `Specimen.Draw.domain`, `Specimen.Draw.url`, `Specimen.Draw.email`, `Specimen.Draw.topLevel`,
  `Specimen.Draw.ip` — addresses.
* `Specimen.Draw.guid`, `Specimen.Draw.identifier`, `Specimen.Draw.color` — identifiers and colours.
-/

namespace Specimen.Draw

/-! ## Addresses -/

/-- The domains that addresses use. -/
def domains : List String := ["example.com", "test.org", "sample.net", "demo.io", "mock.dev"]

/-- The top-level domains. -/
def topLevels : List String := ["com", "org", "net", "edu", "gov", "io", "co", "me"]

/-- An entry of a list that is not empty. -/
def oneOf (xs : List String) : Draw String := do
  let position ← index xs.length
  pure (xs.getD position "")

/-- A domain. -/
def domain : Draw String := oneOf domains

/-- A top-level domain. -/
def topLevel : Draw String := oneOf topLevels

/-- A domain behind one of two protocols. -/
def url : Draw String := do
  let plain ← boolean
  let host ← domain
  pure ((if plain then "http://" else "https://") ++ host)

/-- A mail address. -/
def email : Draw String := do
  let user ← textBetween 5 11 Pool.lowercase
  let host ← domain
  pure (String.ofList user ++ "@" ++ host)

/-- The low eight bits of a word. -/
def byte : Draw Nat := do
  let word ← word32
  pure (word % 256)

/-- Four bytes in decimal with points between them. -/
def ip : Draw String := do
  let bytes ← many 4 byte
  pure (".".intercalate (bytes.map toString))

/-! ## Identifiers and colours -/

/-- A byte as two hexadecimal digits. -/
def hexByte (n : Nat) : List Char := [Json.hexDigit (n / 16), Json.hexDigit (n % 16)]

/-- The bytes of a word, the lowest first. -/
def wordBytes (word : Nat) : List Nat :=
  [word % 256, word / 0x100 % 256, word / 0x10000 % 256, word / 0x1000000 % 256]

/-- Sixteen bytes in groups with dashes between them. The seventh byte carries the version four and
the ninth the variant. -/
def guid : Draw String := do
  let words ← many 4 word32
  let bytes := words.flatMap wordBytes
  let marked := bytes.set 6 (bytes.getD 6 0 % 16 + 0x40) |>.set 8 (bytes.getD 8 0 % 64 + 0x80)
  let hex := marked.flatMap hexByte
  let group (start length : Nat) : String := String.ofList ((hex.drop start).take length)
  pure ("-".intercalate [group 0 8, group 8 4, group 12 4, group 16 4, group 20 12])

/-- An identifier of twenty-four small letters and digits. -/
def identifier : Draw String := String.ofList <$> text 24 Pool.lowerAlphanumeric

/-- A colour of three bytes in hexadecimal. -/
def color : Draw String := do
  let bytes ← many 3 byte
  pure ("#" ++ String.ofList (bytes.flatMap hexByte))

end Specimen.Draw
