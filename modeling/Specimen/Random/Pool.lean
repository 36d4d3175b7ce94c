import Specimen.Random.Uniform

set_option autoImplicit false

/-!
# Random characters and texts

A pool is the list of characters that a random text is made of. Lengths count characters.

## Main definitions

* `Specimen.Pool` — the pools in use.
* `Specimen.Draw.character?` — a character of a pool.
* `Specimen.Draw.text`, `Specimen.Draw.textBetween` — a text of a length, or of a length between
  bounds.
* `Specimen.Draw.pick?` — an element of a list.
-/

namespace Specimen

/-! ## Pools -/

namespace Pool

/-- The small letters. -/
def lowercase : List Char := "abcdefghijklmnopqrstuvwxyz".toList

/-- The capital letters. -/
def uppercase : List Char := "ABCDEFGHIJKLMNOPQRSTUVWXYZ".toList

/-- The digits. -/
def digits : List Char := "0123456789".toList

/-- The letters and digits. -/
def alphanumeric : List Char := lowercase ++ uppercase ++ digits

/-- The characters of words: letters, digits and the underscore. -/
def wordCharacters : List Char := alphanumeric ++ ['_']

/-- The small letters and digits. -/
def lowerAlphanumeric : List Char := lowercase ++ digits

end Pool

/-! ## Draws -/

namespace Draw

/-- An element of a list, drawn even when there is only one. -/
def choose {α : Type} (xs : Array α) (filler : α) : Draw α := do
  let position ← position xs.size
  pure (xs.getD position filler)

/-- An element of a list; an empty list has none, and a single element is not drawn. -/
def pick? {α : Type} (xs : List α) : Draw (Option α) :=
  if xs = [] then pure none else do
    let position ← index xs.length
    pure xs[position]?

/-- A character of a pool; an empty pool has none, and a single character is not drawn. -/
def character? (pool : List Char) : Draw (Option Char) := pick? pool

/-- A text of so many characters of a pool, each drawn even when there is only one to choose from.
An empty pool gives the empty text. -/
def text (length : Nat) (pool : List Char) : Draw (List Char) :=
  if pool.isEmpty then pure []
  else
    let table := pool.toArray
    many length (choose table ' ')

/-- A text with a random length between two bounds in either order. -/
def textBetween (a b : Nat) (pool : List Char) : Draw (List Char) := do
  let length ← integer (Integer.ofLength a) (Integer.ofLength b)
  text length.toNat pool

end Draw

end Specimen
