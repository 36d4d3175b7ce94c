set_option autoImplicit false

/-!
# Loose names

The names of properties, categories and scripts are compared loosely: the case of letters, blanks,
dashes, low lines and an "is" in front do not count.

## Main definitions

* `Specimen.Text.looseName` — what counts of a name.
* `Specimen.Text.findLoose?` — the entry of a list with a name.
-/

namespace Specimen.Text

/-- The characters of a name that count, in small letters. -/
def looseLetters (name : List Char) : List Char :=
  (name.filter fun c => c.toNat < 0x80 && c != ' ' && c != '-' && c != '_').map Char.toLower

/-- What counts of a name. An "is" in front does not, but "isc" is a name of its own. -/
def looseName (name : List Char) : List Char :=
  if (name.take 2).map Char.toLower = ['i', 's'] then
    let rest := looseLetters (name.drop 2)
    if rest = ['c'] then ['i', 's', 'c'] else rest
  else looseLetters name

/-- The entry with a name in a list of entries with their names. -/
def findLoose? {α : Type} (name : List Char) (entries : List (List String × α)) : Option α :=
  let loose := looseName name
  let found := entries.find? fun (names, _) => names.any fun other => looseName other.toList = loose
  found.map Prod.snd

end Specimen.Text
