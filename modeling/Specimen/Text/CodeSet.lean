import Specimen.Integer
import Specimen.Text.Split

set_option autoImplicit false

/-!
# Sets of code points

A set of code points is kept as its runs, from left to right, with at least one code point between
two of them. Surrogates are no characters: a run that begins or ends among them is cut there. Sets
are written in lines of runs with blanks between them; a run is one code point, or two with a dash,
in hexadecimal digits, and after a slash the distance of its members when it is not one.

## Main definitions

* `Specimen.Text.Run`, `Specimen.Text.CodeSet` — runs and sets.
* `Specimen.Text.CodeSet.ofRuns` — the union of runs.
* `Specimen.Text.CodeSet.union`, `Specimen.Text.CodeSet.complement`,
  `Specimen.Text.CodeSet.intersect`, `Specimen.Text.CodeSet.difference`,
  `Specimen.Text.CodeSet.symmetricDifference` — the algebra of sets.
* `Specimen.Text.CodeSet.read` — the set that lines write.
-/

namespace Specimen.Text

/-- The code points from `first` to `last`. -/
structure Run where
  /-- The first code point. -/
  first : Nat
  /-- The last code point. -/
  last : Nat
  deriving DecidableEq, Repr

namespace Run

/-- The run has the code point. -/
def contains (run : Run) (code : Nat) : Bool := run.first ≤ code && code ≤ run.last

/-- One code point. -/
def single (code : Nat) : Run := ⟨code, code⟩

/-- A run, joined with all runs after it that touch it; the runs come by their first code points. -/
def joinInto (run : Run) : List Run → List Run
  | [] => [run]
  | next :: rest =>
    if next.first ≤ run.last + 1 then joinInto ⟨run.first, max run.last next.last⟩ rest
    else run :: joinInto next rest

end Run

/-- A set of code points, by its runs. -/
structure CodeSet where
  /-- The runs from left to right, none of which touches the next. -/
  runs : List Run
  deriving DecidableEq, Repr

namespace CodeSet

/-- The greatest code point. -/
def greatest : Nat := 0x10FFFF

/-- The surrogates. -/
def surrogates : Run := ⟨0xD800, 0xDFFF⟩

/-- No code point. -/
def empty : CodeSet := ⟨[]⟩

/-- All code points. -/
def full : CodeSet := ⟨[⟨0, greatest⟩]⟩

/-- The union of runs in any order. -/
def ofRuns (runs : List Run) : CodeSet :=
  match runs.mergeSort fun a b => a.first ≤ b.first with
  | [] => empty
  | run :: rest => ⟨run.joinInto rest⟩

/-- One code point. -/
def single (code : Nat) : CodeSet := ⟨[.single code]⟩

/-- The set has the code point. -/
def contains (set : CodeSet) (code : Nat) : Bool := set.runs.any fun run => run.contains code

/-- The set has nothing beyond ASCII. -/
def isAscii (set : CodeSet) : Bool := set.runs.all fun run => run.last < 0x80

/-! ## Algebra -/

/-- The union of two sets. -/
def union (a b : CodeSet) : CodeSet := ofRuns (a.runs ++ b.runs)

/-- The union of several sets. -/
def unions (sets : List CodeSet) : CodeSet := ofRuns (sets.flatMap CodeSet.runs)

/-- The run without the surrogates at its ends. -/
def trimRun? (run : Run) : Option Run :=
  let first := if surrogates.contains run.first then surrogates.last + 1 else run.first
  let last := if surrogates.contains run.last then surrogates.first - 1 else run.last
  if first ≤ last then some ⟨first, last⟩ else none

/-- The gaps between runs, from a code point on. -/
def gapsFrom (start : Nat) : List Run → List Run
  | [] => if start ≤ greatest then [⟨start, greatest⟩] else []
  | run :: rest =>
    if start < run.first then ⟨start, run.first - 1⟩ :: gapsFrom (run.last + 1) rest
    else gapsFrom (run.last + 1) rest

/-- The characters that are not in the set. -/
def complement (set : CodeSet) : CodeSet := ⟨(gapsFrom 0 set.runs).filterMap trimRun?⟩

/-- What two sets have in common. -/
def intersect (a b : CodeSet) : CodeSet := (a.complement.union b.complement).complement

/-- What is in the first set only. -/
def difference (a b : CodeSet) : CodeSet := a.intersect b.complement

/-- What is in one of the sets only. -/
def symmetricDifference (a b : CodeSet) : CodeSet := (a.union b).difference (a.intersect b)

/-! ## Tables -/

/-- The code point that hexadecimal digits write. -/
def readCode (digits : List Char) : Nat := (Integer.ofBase? 16 digits).getD 0

/-- The code points from `first` to `last` in steps. -/
def steps (first last step : Nat) : List Run :=
  (List.range ((last - first) / step + 1)).map fun i => .single (first + i * step)

/-- The runs that a word of a table writes. -/
def readWord (word : List Char) : List Run :=
  match cut? '-' word with
  | none => if word.isEmpty then [] else [.single (readCode word)]
  | some (first, rest) =>
    match cut? '/' rest with
    | none => [⟨readCode first, readCode rest⟩]
    | some (last, step) => steps (readCode first) (readCode last) (readCode step)

/-- The set that lines write. -/
def read (lines : List String) : CodeSet :=
  ofRuns (lines.flatMap fun line => (line.toList.splitOn ' ').flatMap readWord)

end CodeSet

end Specimen.Text
