import Specimen.Text.Property

set_option autoImplicit false

/-!
# Upper and lower case

The full case mappings of Unicode: an upper case may have several characters, and a capital sigma
at the end of a word has a lower case of its own. Placeholder names are compared by their lower
case.

## Main definitions

* `Specimen.Text.upper` — the upper case of a text.
* `Specimen.Text.lower` — the lower case of a text, with the rule for a final sigma.
* `Specimen.Text.capitalize` — a text with its first character in upper case.
-/

namespace Specimen.Text

/-! ## Single characters -/

/-- An ASCII capital letter. -/
def isAsciiUpper (c : Char) : Bool := 'A' ≤ c && c ≤ 'Z'

/-- An ASCII small letter. -/
def isAsciiLower (c : Char) : Bool := 'a' ≤ c && c ≤ 'z'

/-- An ASCII letter. -/
def isAsciiLetter (c : Char) : Bool := isAsciiUpper c || isAsciiLower c

/-- The run moves the code point `n`. -/
def CaseRun.covers (run : CaseRun) (n : Nat) : Bool :=
  run.first ≤ n && n ≤ run.last && (n - run.first) % run.stride == 0

/-- The character that a table of runs maps `c` to; `c` itself when no run covers it. -/
def mapByRuns (runs : List CaseRun) (c : Char) : Char :=
  match runs.find? fun run => run.covers c.toNat with
  | some run => Char.ofNat (run.move c.toNat)
  | none => c

/-- The upper case of a character, which may have several characters. -/
def upperOf (c : Char) : List Char :=
  if c.toNat < 0x80 then [if isAsciiLower c then Char.ofNat (c.toNat - 32) else c]
  else
    match upperExpansions.lookup c.toNat with
    | some points => points.map Char.ofNat
    | none => [mapByRuns upperRuns c]

/-- The lower case of a character standing alone. The dotted capital I keeps its dot as a
combining character. -/
def lowerOf (c : Char) : List Char :=
  if c.toNat < 0x80 then [if isAsciiUpper c then Char.ofNat (c.toNat + 32) else c]
  else if c.toNat = 0x130 then ['i', Char.ofNat 0x307]
  else [mapByRuns lowerRuns c]

/-! ## The final sigma -/

/-- The nearest character that is not case-ignorable is cased. -/
def facesCased (text : List Char) : Bool :=
  match text.dropWhile fun c => Property.caseIgnorable.contains c.toNat with
  | c :: _ => Property.cased.contains c.toNat
  | [] => false

/-- The lower case of a text whose characters to the left are `before`, the nearest first. -/
def lowerAfter (before : List Char) : List Char → List Char
  | [] => []
  | c :: rest =>
    let mapped :=
      if c = 'Σ' then [if facesCased before && !facesCased rest then 'ς' else 'σ'] else lowerOf c
    mapped ++ lowerAfter (c :: before) rest

/-! ## Texts -/

/-- The upper case of a text. -/
def upper (text : String) : String := String.ofList (text.toList.flatMap upperOf)

/-- The lower case of a text. -/
def lower (text : String) : String := String.ofList (lowerAfter [] text.toList)

/-- The text with its first character in upper case. -/
def capitalize (text : String) : String :=
  match text.toList with
  | [] => ""
  | c :: rest => String.ofList (upperOf c ++ rest)

/-- The text with ASCII capital letters made small and nothing else changed. -/
def asciiLower (text : List Char) : List Char :=
  text.map fun c => if isAsciiUpper c then Char.ofNat (c.toNat + 32) else c

end Specimen.Text
