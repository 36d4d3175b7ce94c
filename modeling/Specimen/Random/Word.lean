import Specimen.Random.Pool
import Specimen.Text.Case
import Specimen.Vocabulary.Filler
import Specimen.Vocabulary.FirstName
import Specimen.Vocabulary.LastName
import Specimen.Vocabulary.Place
import Specimen.Vocabulary.Business

set_option autoImplicit false

/-!
# Random words, names and places

Every entry of a word list is drawn with a word of its own. A name or place that is put together
from parts draws all parts in a fixed order.

## Main definitions

* `Specimen.Draw.fillerWord`, `Specimen.Draw.wordBetween`, `Specimen.Draw.sentence`,
  `Specimen.Draw.paragraph`, `Specimen.Draw.title` — filler text.
* `Specimen.Draw.firstName`, `Specimen.Draw.lastName`, `Specimen.Draw.fullName` — people.
* `Specimen.Draw.city`, `Specimen.Draw.province`, `Specimen.Draw.streetName` — places.
* `Specimen.Draw.company`, `Specimen.Draw.profession`, `Specimen.Draw.mailDomain` — business.
-/

namespace Specimen.Draw

/-- An entry of a word list. -/
def entry (words : Array String) : Draw String := choose words ""

/-! ## Filler text -/

/-- A word of filler text. -/
def fillerWord : Draw String := entry Vocabulary.fillerWords

/-- A word cut, or padded with small letters, to a length between two bounds. -/
def fitted (word : List Char) (a b : Nat) : Draw (List Char) := do
  let length ← integer (Integer.ofLength a) (Integer.ofLength b)
  let target := length.toNat
  if target ≤ word.length then pure (word.take target)
  else do
    let padding ← text (target - word.length) Pool.lowercase
    pure (word ++ padding)

/-- A word of filler text with a length between two bounds. -/
def wordBetween (a b : Nat) : Draw String := do
  let word ← fillerWord
  let fit ← fitted word.toList a b
  pure (String.ofList fit)

/-- A number of results of a step between two bounds. -/
def several {α : Type} (a b : Nat) (step : Draw α) : Draw (List α) := do
  let count ← integer (Integer.ofLength a) (Integer.ofLength b)
  many count.toNat step

/-- A sentence with a number of words between two bounds. -/
def sentence (a b : Nat) : Draw String := do
  let words ← several a b fillerWord
  pure (Text.capitalize (" ".intercalate words) ++ ".")

/-- A paragraph with a number of sentences between two bounds. -/
def paragraph (a b : Nat) : Draw String := do
  let sentences ← several a b (sentence 12 18)
  pure (" ".intercalate sentences)

/-- A title with a number of words between two bounds, each with a capital letter. -/
def title (a b : Nat) : Draw String := do
  let words ← several a b (Text.capitalize <$> fillerWord)
  pure (" ".intercalate words)

/-! ## People -/

/-- A first name. -/
def firstName (locale : Locale) : Draw String := entry (Vocabulary.firstNames locale)

/-- A last name. -/
def lastName (locale : Locale) : Draw String := entry (Vocabulary.lastNames locale)

/-- A first name and a last name. -/
def fullName (locale : Locale) : Draw String := do
  let first ← firstName locale
  let last ← lastName locale
  pure (first ++ " " ++ last)

/-! ## Places -/

/-- The name of a person as cities take it: in Chinese the last name comes first, without a
blank. -/
def namesake (locale : Locale) (first last : String) : String :=
  match locale with
  | .zhCN => last ++ first
  | _ => first ++ " " ++ last

/-- A city: in one case of five a prefix with a whole name, in one a first name, else a last
name. -/
def city (locale : Locale) : Draw String := do
  let shape ← below .w32 5
  if shape = 0 then
    let lead ← entry Vocabulary.cityPrefixes
    let first ← firstName locale
    let last ← lastName locale
    let ending ← entry Vocabulary.citySuffixes
    pure (lead ++ " " ++ namesake locale first last ++ " " ++ ending)
  else
    let name ← if shape = 1 then firstName locale else lastName locale
    let ending ← entry Vocabulary.citySuffixes
    pure (name ++ " " ++ ending)

/-- A state or province. -/
def province (locale : Locale) : Draw String := entry (Vocabulary.provinces locale)

/-- A street named after a first or a last name; in Portuguese the word for street comes first. -/
def streetName (locale : Locale) : Draw String := do
  let coin ← word32
  let name ← if 0x80000000 ≤ coin then firstName locale else lastName locale
  let street ← entry (Vocabulary.streetSuffixes locale)
  match locale with
  | .ptBR => pure (street ++ " " ++ name)
  | _ => pure (name ++ " " ++ street)

/-! ## Business -/

/-- A company named after one or two people. Both names are drawn in any case. -/
def company (locale : Locale) : Draw String := do
  let shape ← below .w32 2
  let one ← lastName locale
  let two ← lastName locale
  let ending ← entry (Vocabulary.companySuffixes locale)
  if shape = 0 then pure (one ++ " " ++ ending)
  else pure (one ++ " and " ++ two ++ " " ++ ending)

/-- A profession. -/
def profession : Draw String := entry Vocabulary.professions

/-- The domain of a mail provider. -/
def mailDomain (locale : Locale) : Draw String := entry (Vocabulary.mailDomains locale)

end Specimen.Draw
