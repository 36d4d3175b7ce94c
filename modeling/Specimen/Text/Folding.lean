import Specimen.Text.CaseTable

set_option autoImplicit false

/-!
# Characters that are the same when case does not count

When case does not count, a character is the same as its capital letter, and as all characters with
this capital letter. Few characters are the same as others whose capital letter is another one, or
more than one character.

## Main definitions

* `Specimen.Text.orbits` — the lists of characters that are the same.
* `Specimen.Text.CodeSet.folded`, `Specimen.Text.CodeSet.foldedAscii` — a set, and all that is the
  same as one of its members.
-/

namespace Specimen.Text

/-- Characters that are the same as others which are not their capital letters. -/
def siblingRuns : List CaseRun := [
  ⟨0x3F4, 0x3F4, 1, -92⟩, ⟨0x1E9E, 0x1E9E, 1, -7615⟩, ⟨0x1F88, 0x1F8F, 1, -8⟩,
  ⟨0x1F98, 0x1F9F, 1, -8⟩, ⟨0x1FA8, 0x1FAF, 1, -8⟩, ⟨0x1FBC, 0x1FBC, 1, -9⟩,
  ⟨0x1FCC, 0x1FCC, 1, -9⟩, ⟨0x1FD3, 0x1FD3, 1, -7235⟩, ⟨0x1FE3, 0x1FE3, 1, -7219⟩,
  ⟨0x1FFC, 0x1FFC, 1, -9⟩, ⟨0x2126, 0x2126, 1, -7549⟩, ⟨0x212A, 0x212A, 1, -8415⟩,
  ⟨0x212B, 0x212B, 1, -8294⟩, ⟨0xFB06, 0xFB06, 1, -1⟩]

/-- The capital I is not the same as the small letter without a dot. -/
def isFolded (code : Nat) : Bool := code != 0x131

/-- Characters after the one by which they are known; the latter is known by itself. -/
def links : List (Nat × Nat) :=
  (⟨0x61, 0x7A, 1, -32⟩ :: upperRuns ++ siblingRuns).flatMap fun run =>
    (run.codes.filter isFolded).flatMap fun code =>
      [(run.move code, run.move code), (run.move code, code)]

/-- Links in their order: the lists of characters that are known by the same one. -/
def groupLinks : List (Nat × Nat) → List (Nat × List Nat)
  | [] => []
  | (key, code) :: rest =>
    match groupLinks rest with
    | (next, codes) :: groups =>
      if key = next then (key, code :: codes) :: groups
      else (key, [code]) :: (next, codes) :: groups
    | [] => [(key, [code])]

/-- The lists of characters that are the same. -/
def orbits : List (List Nat) :=
  (groupLinks (links.mergeSort fun a b => a.1 ≤ b.1)).map Prod.snd

namespace CodeSet

/-- A set, and all that is the same as one of its members. -/
def folded (set : CodeSet) : CodeSet :=
  set.union (ofRuns ((orbits.filter fun orbit => orbit.any set.contains).flatMap fun orbit =>
    orbit.map .single))

/-- A set with all that is the same as one of its members, for the letters of ASCII. -/
def foldedAscii (set : CodeSet) : CodeSet :=
  let twins := fun (code : Nat) =>
    if asciiCapitals.contains code then [Run.single (code + 32)]
    else if asciiSmalls.contains code then [Run.single (code - 32)]
    else []
  set.union (ofRuns (((List.range 0x80).filter set.contains).flatMap twins))

end CodeSet

end Specimen.Text
