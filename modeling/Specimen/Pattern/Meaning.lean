import Specimen.Pattern.Automaton
import Specimen.Pattern.Query
import Specimen.Pattern.Reader
import Specimen.Text.Folding

set_option autoImplicit false

/-!
# What patterns look for

The form of a tree depends on the flags at its place. Switches hold to the end of the group they
stand in. While characters are not those of all scripts, a set has only characters of ASCII, so
that nothing is negated and no dot can stand.

## Main definitions

* `Specimen.Pattern.Sense` — the flags at a place.
* `Specimen.Pattern.SetTree.codes?` — the characters of a set.
* `Specimen.Pattern.Tree.form?` — the form of a tree.
* `Specimen.Pattern.readForm?` — the form of a pattern.
* `Specimen.Pattern.isWellFormed` — patterns that can be looked for.
-/

namespace Specimen.Pattern

open Specimen.Text

/-! ## Flags -/

/-- The flags at a place of a pattern. -/
structure Sense where
  /-- Capital and small letters are the same. -/
  ignoreCase : Bool
  /-- Lines have starts and ends. -/
  multiLine : Bool
  /-- A dot stands for the end of a line, too. -/
  dotMatchesLine : Bool
  /-- Repetitions are short unless they are marked. -/
  swapGreed : Bool
  /-- Characters are those of all scripts. -/
  unicode : Bool
  /-- A carriage return may end lines. -/
  carriageReturn : Bool
  deriving DecidableEq, Repr

namespace Sense

/-- The flags at the start of a pattern. -/
def start : Sense := ⟨false, false, false, false, true, false⟩

/-- The flags after switches. -/
def after (sense : Sense) (switches : Switches) : Sense where
  ignoreCase := switches.after .ignoreCase sense.ignoreCase
  multiLine := switches.after .multiLine sense.multiLine
  dotMatchesLine := switches.after .dotMatchesLine sense.dotMatchesLine
  swapGreed := switches.after .swapGreed sense.swapGreed
  unicode := switches.after .unicode sense.unicode
  carriageReturn := switches.after .carriageReturn sense.carriageReturn

/-- A set, with all that is the same as its members. -/
def fold (sense : Sense) (codes : CodeSet) : CodeSet :=
  if !sense.ignoreCase then codes
  else if sense.unicode then codes.folded
  else codes.foldedAscii

/-- A set, or what is not in it. -/
def negate? (sense : Sense) (negated : Bool) (codes : CodeSet) : Option CodeSet :=
  if !negated then some codes
  else if sense.unicode then some codes.complement
  else none

/-- A character of a set. -/
def ofSet (sense : Sense) (codes : CodeSet) : Form := .ofSet (!sense.unicode) codes

/-- The code point of a character, which is no byte beyond ASCII unless characters are those of all
scripts. -/
def code? (sense : Sense) (l : Literal) : Option Nat :=
  if sense.unicode || !l.isByte || l.char.toNat < 0x80 then some l.char.toNat else none

/-- The code point of a character that can be in a set. -/
def member? (sense : Sense) (l : Literal) : Option Nat := do
  let code ← sense.code? l
  if sense.unicode || code < 0x80 then some code else none

/-- The form of a character. -/
def ofLiteral? (sense : Sense) (l : Literal) : Option Form := do
  let code ← sense.code? l
  if sense.unicode || code < 0x80 then some (sense.ofSet (sense.fold (.single code)))
  else some (.text (Utf8.encode code))

/-- The form of a dot. -/
def dot? (sense : Sense) : Option Form :=
  if !sense.unicode then none
  else if sense.dotMatchesLine then some (sense.ofSet .full)
  else
    let ends := if sense.carriageReturn then [Run.single 0xA, Run.single 0xD] else [Run.single 0xA]
    some (sense.ofSet (CodeSet.ofRuns ends).complement)

/-- The position of an assertion. -/
def look (sense : Sense) : Assertion → Look
  | .caret => if sense.multiLine then .lineStart sense.carriageReturn else .textStart
  | .dollar => if sense.multiLine then .lineEnd sense.carriageReturn else .textEnd
  | .textStart => .textStart
  | .textEnd => .textEnd
  | .edge => .edge sense.unicode
  | .noEdge => .noEdge sense.unicode
  | .wordStart half => .wordStart half sense.unicode
  | .wordEnd half => .wordEnd half sense.unicode

end Sense

/-! ## Sets -/

/-- The characters of a named set of ASCII characters. -/
def PosixName.codes : PosixName → CodeSet
  | .alnum => .read ["30-39 41-5A 61-7A"]
  | .alpha => .read ["41-5A 61-7A"]
  | .ascii => .read ["0-7F"]
  | .blank => .read ["9 20"]
  | .cntrl => .read ["0-1F 7F"]
  | .digit => .read ["30-39"]
  | .graph => .read ["21-7E"]
  | .lower => .read ["61-7A"]
  | .print => .read ["20-7E"]
  | .punct => .read ["21-2F 3A-40 5B-60 7B-7E"]
  | .space => .read ["9-D 20"]
  | .upper => .read ["41-5A"]
  | .word => .read ["30-39 41-5A 5F 61-7A"]
  | .xdigit => .read ["30-39 41-46 61-66"]

/-- The characters of a set with a letter of its own. -/
def Shorthand.codes (unicode : Bool) : Shorthand → CodeSet
  | .digit => if unicode then Category.decimalNumber else PosixName.codes .digit
  | .blank => if unicode then Property.whiteSpace else PosixName.codes .space
  | .word => if unicode then Property.word else PosixName.codes .word

/-- The characters of a set with a letter of its own, or what is not in it. -/
def Sense.shorthand? (sense : Sense) (kind : Shorthand) (negated : Bool) : Option CodeSet :=
  sense.negate? negated (kind.codes sense.unicode)

/-- The characters for which a query is answered by yes, or by no. -/
def Sense.property? (sense : Sense) (query : PropertyQuery) (negated : Bool) : Option CodeSet := do
  if sense.unicode then sense.negate? negated (sense.fold (← query.codes?)) else none

/-- Two sets put together. -/
def SetOperator.apply : SetOperator → CodeSet → CodeSet → CodeSet
  | .intersection, left, right => left.intersect right
  | .difference, left, right => left.difference right
  | .symmetricDifference, left, right => left.symmetricDifference right

namespace SetTree

mutual

/-- The characters of a set. -/
def codes? (sense : Sense) : SetTree → Option CodeSet
  | .literal l => (sense.member? l).map .single
  | .range low high => do some (.ofRuns [⟨← sense.member? low, ← sense.member? high⟩])
  | .posix name negated => sense.negate? negated (sense.fold name.codes)
  | .shorthand kind negated => sense.shorthand? kind negated
  | .property query negated => sense.property? query negated
  | .bracketed negated set => do sense.negate? negated (sense.fold (← codes? sense set))
  | .union items => do some (.unions (← codesOfAll? sense items))
  | .operation op left right => do
    some (op.apply (sense.fold (← codes? sense left)) (sense.fold (← codes? sense right)))

/-- The characters of several sets. -/
def codesOfAll? (sense : Sense) : List SetTree → Option (List CodeSet)
  | [] => some []
  | item :: items => do some ((← codes? sense item) :: (← codesOfAll? sense items))

end

end SetTree

/-! ## Patterns -/

/-- The flags in a group. -/
def GroupKind.sense (before : Sense) : GroupKind → Sense
  | .numbered _ => before
  | .switched switches => before.after switches

/-- The form of a group. -/
def GroupKind.form : GroupKind → Form → Form
  | .numbered index, sub => .group index sub
  | .switched _, sub => sub

namespace Tree

mutual

/-- The form of a tree at a place with flags, and the flags after it. -/
def formAt? (sense : Sense) : Tree → Option (Form × Sense)
  | .empty => some (.empty, sense)
  | .switches changes => some (.empty, sense.after changes)
  | .literal l => (sense.ofLiteral? l).map fun form => (form, sense)
  | .dot => sense.dot?.map fun form => (form, sense)
  | .assertion position => some (.look (sense.look position), sense)
  | .shorthand kind negated =>
    (sense.shorthand? kind negated).map fun codes => (sense.ofSet codes, sense)
  | .property query negated =>
    (sense.property? query negated).map fun codes => (sense.ofSet codes, sense)
  | .bracketed negated set => do
    let codes ← sense.negate? negated (sense.fold (← set.codes? sense))
    some (sense.ofSet codes, sense)
  | .repeated low high short sub => do
    let (form, sense) ← formAt? sense sub
    some (.times low high (short == sense.swapGreed) form, sense)
  | .group kind sub => do
    let (form, _) ← formAt? (kind.sense sense) sub
    some (kind.form form, sense)
  | .row subs => do
    let (forms, sense) ← formsAt? sense subs
    some (.inRow forms, sense)
  | .choice subs => do
    let (forms, sense) ← formsAt? sense subs
    some (.oneOf forms, sense)

/-- The forms of trees from left to right, and the flags after them. -/
def formsAt? (sense : Sense) : List Tree → Option (List Form × Sense)
  | [] => some ([], sense)
  | sub :: subs => do
    let (form, sense) ← formAt? sense sub
    let (forms, sense) ← formsAt? sense subs
    some (form :: forms, sense)

end

/-- The form of a pattern; nothing when it makes no sense. -/
def form? (tree : Tree) : Option Form := (tree.formAt? .start).map Prod.fst

end Tree

/-- The form of a pattern that can be read, is not too deep, and makes sense. -/
def readForm? (pattern : List Char) : Option Form := do
  let tree ← Tree.read? pattern
  if tree.depth ≤ Tree.depthLimit then tree.form? else none

/-- The pattern can be looked for: it has a form, whose automata fit. -/
def isWellFormed (pattern : List Char) : Bool := (readForm? pattern).any Form.fits

end Specimen.Pattern
