import Specimen.Text.CodeSet

set_option autoImplicit false

/-!
# The bytes of characters

A character is written with one to four bytes. The characters of a run are written with few
sequences of ranges of bytes: the run is cut where the number of bytes changes, and then at blocks
of sixty-four code points and their powers, until all combinations of bytes from the ranges of a
sequence are characters of the run.

## Main definitions

* `Specimen.Text.Utf8.encode` — the bytes of a code point.
* `Specimen.Text.Utf8.sequences` — the sequences of ranges for a run.
* `Specimen.Text.Utf8.sequencesOf` — the sequences for a set.
-/

namespace Specimen.Text.Utf8

/-- The bytes of a code point. -/
def encode (code : Nat) : List Nat :=
  if code < 0x80 then [code]
  else if code < 0x800 then [0xC0 + code / 0x40, 0x80 + code % 0x40]
  else if code < 0x10000 then
    [0xE0 + code / 0x1000, 0x80 + code / 0x40 % 0x40, 0x80 + code % 0x40]
  else
    [0xF0 + code / 0x40000, 0x80 + code / 0x1000 % 0x40, 0x80 + code / 0x40 % 0x40,
      0x80 + code % 0x40]

/-- The number of bytes of a code point. -/
def width (code : Nat) : Nat := (encode code).length

/-- The code points with the same number of bytes, without the surrogates. -/
def widthRuns : List Run :=
  [⟨0, 0x7F⟩, ⟨0x80, 0x7FF⟩, ⟨0x800, 0xD7FF⟩, ⟨0xE000, 0xFFFF⟩, ⟨0x10000, 0x10FFFF⟩]

/-- What two runs have in common. -/
def common? (a b : Run) : Option Run :=
  let first := max a.first b.first
  let last := min a.last b.last
  if first ≤ last then some ⟨first, last⟩ else none

/-- The sizes of blocks that share all bytes but the last one, two and three. -/
def blockSizes : List Nat := [0x40, 0x1000, 0x40000]

/-- A run, cut so that pieces in several blocks of a size fill them, for all sizes. -/
def cutAtBlocks : List Nat → Run → List Run
  | [], run => [run]
  | size :: sizes, run =>
    if run.first / size = run.last / size then [run]
    else
      let start := (run.first + size - 1) / size * size
      let stop := (run.last + 1) / size * size
      let front := if run.first < start then [⟨run.first, start - 1⟩] else []
      let back := if stop ≤ run.last then [⟨stop, run.last⟩] else []
      let middle := if start < stop then cutAtBlocks sizes ⟨start, stop - 1⟩ else []
      front ++ middle ++ back

/-- The ranges of bytes for a run that needs no cut. -/
def byteRanges (run : Run) : List Run :=
  (encode run.first).zipWith (fun first last => ⟨first, last⟩) (encode run.last)

/-- The sequences of ranges of bytes for a run. -/
def sequences (run : Run) : List (List Run) :=
  (widthRuns.filterMap (common? run)).flatMap fun part =>
    if part.last < 0x80 then [byteRanges part]
    else (cutAtBlocks blockSizes part).map byteRanges

/-- The sequences of ranges of bytes for a set. -/
def sequencesOf (set : CodeSet) : List (List Run) := set.runs.flatMap sequences

end Specimen.Text.Utf8
