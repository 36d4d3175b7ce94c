import Specimen.Text.Utf8

set_option autoImplicit false

/-!
# Forms of patterns

A form is what a pattern looks for, without the ways of writing it: characters in a row are one text
of bytes, a set of one character is that text, and rows and choices are flat. The constructions
below keep forms like that. A choice between single characters or between sets is one set, and what
all branches of a choice begin with stands before it.

## Main definitions

* `Specimen.Pattern.Look` — positions.
* `Specimen.Pattern.Form` — forms.
* `Specimen.Pattern.Form.least?`, `Specimen.Pattern.Form.most?` — bounds of the number of bytes.
* `Specimen.Pattern.Form.isAnchored` — forms for the start or the end of a text.
* `Specimen.Pattern.Form.ofSet`, `Specimen.Pattern.Form.times`, `Specimen.Pattern.Form.inRow`,
  `Specimen.Pattern.Form.oneOf` — the constructions.
-/

namespace Specimen.Pattern

open Specimen.Text

/-! ## Positions -/

/-- A position. Words have the letters of all scripts, or those of ASCII only. -/
inductive Look where
  /-- The start of the text. -/
  | textStart
  /-- The end of the text. -/
  | textEnd
  /-- The start of a line; a carriage return may end lines, too. -/
  | lineStart (carriageReturn : Bool)
  /-- The end of a line. -/
  | lineEnd (carriageReturn : Bool)
  /-- The edge of a word. -/
  | edge (unicode : Bool)
  /-- Anything but the edge of a word. -/
  | noEdge (unicode : Bool)
  /-- The start of a word; the half of it looks to one side only. -/
  | wordStart (half unicode : Bool)
  /-- The end of a word. -/
  | wordEnd (half unicode : Bool)
  deriving DecidableEq, Repr

/-- The position depends on the letters of all scripts. -/
def Look.readsUnicode : Look → Bool
  | .edge unicode => unicode
  | .noEdge unicode => unicode
  | .wordStart _ unicode => unicode
  | .wordEnd _ unicode => unicode
  | _ => false

/-! ## Forms -/

/-- What a pattern looks for. -/
inductive Form where
  /-- Nothing. -/
  | empty
  /-- Bytes in a row. -/
  | text (bytes : List Nat)
  /-- A character of a set; the set may be one of bytes. -/
  | set (bytes : Bool) (codes : CodeSet)
  /-- A position. -/
  | look (look : Look)
  /-- A form from so often to so often, or more often. -/
  | repeated (low : Nat) (high : Option Nat) (greedy : Bool) (sub : Form)
  /-- A group with a number. -/
  | group (index : Nat) (sub : Form)
  /-- Forms one after the other. -/
  | row (subs : List Form)
  /-- One of several forms. -/
  | choice (subs : List Form)

namespace Form

mutual

/-- Two forms are the same. -/
def same : Form → Form → Bool
  | .empty, .empty => true
  | .text a, .text b => a == b
  | .set isBytes a, .set isBytes' b => isBytes == isBytes' && a == b
  | .look a, .look b => a == b
  | .repeated low high greedy a, .repeated low' high' greedy' b =>
    low == low' && high == high' && greedy == greedy' && same a b
  | .group i a, .group j b => i == j && same a b
  | .row as, .row bs => sameList as bs
  | .choice as, .choice bs => sameList as bs
  | _, _ => false

/-- Two lists of forms are the same. -/
def sameList : List Form → List Form → Bool
  | [], [] => true
  | a :: as, b :: bs => same a b && sameList as bs
  | _, _ => false

end

mutual

/-- The number of parts of a form. -/
def weight : Form → Nat
  | .repeated _ _ _ sub => weight sub + 1
  | .group _ sub => weight sub + 1
  | .row subs => weightList subs + 1
  | .choice subs => weightList subs + 1
  | _ => 1

/-- The number of parts of several forms. -/
def weightList : List Form → Nat
  | [] => 0
  | sub :: subs => weight sub + weightList subs

end

mutual

/-- The form has a position of a kind. -/
def anyLook (kind : Look → Bool) : Form → Bool
  | .look position => kind position
  | .repeated _ _ _ sub => anyLook kind sub
  | .group _ sub => anyLook kind sub
  | .row subs => anyLookOfAll kind subs
  | .choice subs => anyLookOfAll kind subs
  | _ => false

/-- Several forms have a position of a kind. -/
def anyLookOfAll (kind : Look → Bool) : List Form → Bool
  | [] => false
  | sub :: subs => anyLook kind sub || anyLookOfAll kind subs

end

/-- A set without members: a form that nothing has. -/
def fail : Form := .set true .empty

/-! ## Lengths -/

mutual

/-- The least number of bytes; nothing when nothing has the form. -/
def least? : Form → Option Nat
  | .empty => some 0
  | .text bytes => some bytes.length
  | .set _ codes => codes.runs.head?.map fun run => Utf8.width run.first
  | .look _ => some 0
  | .repeated low _ _ sub => (least? sub).map (· * low)
  | .group _ sub => least? sub
  | .row subs => leastOfRow? subs
  | .choice [] => none
  | .choice (sub :: subs) => leastOfChoice? (least? sub) subs

/-- The least number of bytes of forms one after the other. -/
def leastOfRow? : List Form → Option Nat
  | [] => some 0
  | sub :: subs => do some ((← least? sub) + (← leastOfRow? subs))

/-- The least number of bytes of one of several forms and one before them. -/
def leastOfChoice? (before : Option Nat) : List Form → Option Nat
  | [] => before
  | sub :: subs => leastOfChoice? (do some (min (← before) (← least? sub))) subs

end

mutual

/-- The greatest number of bytes; nothing when there is none. -/
def most? : Form → Option Nat
  | .empty => some 0
  | .text bytes => some bytes.length
  | .set _ codes => codes.runs.getLast?.map fun run => Utf8.width run.last
  | .look _ => some 0
  | .repeated _ high _ sub => do some ((← most? sub) * (← high))
  | .group _ sub => most? sub
  | .row subs => mostOfRow? subs
  | .choice [] => none
  | .choice (sub :: subs) => mostOfChoice? (most? sub) subs

/-- The greatest number of bytes of forms one after the other. -/
def mostOfRow? : List Form → Option Nat
  | [] => some 0
  | sub :: subs => do some ((← most? sub) + (← mostOfRow? subs))

/-- The greatest number of bytes of one of several forms and one before them. -/
def mostOfChoice? (before : Option Nat) : List Form → Option Nat
  | [] => before
  | sub :: subs => mostOfChoice? (do some (max (← before) (← most? sub))) subs

end

/-! ## Where a form begins and ends -/

mutual

/-- Everything with the form begins at the start of the text; from the other side, ends at its
end. -/
def isAnchored (atEnd : Bool) : Form → Bool
  | .look position => position == if atEnd then .textEnd else .textStart
  | .repeated low _ _ sub => low != 0 && isAnchored atEnd sub
  | .group _ sub => isAnchored atEnd sub
  | .row subs => anchorsRow atEnd subs
  | .choice subs => !subs.isEmpty && anchorsAll atEnd subs
  | _ => false

/-- A form of a row is anchored, and those before it, or after it, have no bytes. -/
def anchorsRow (atEnd : Bool) : List Form → Bool
  | [] => false
  | sub :: subs =>
    if atEnd then
      anchorsRow atEnd subs ||
        (isAnchored atEnd sub && subs.all fun sub => most? sub == some 0)
    else isAnchored atEnd sub || (most? sub == some 0 && anchorsRow atEnd subs)

/-- All forms are anchored. -/
def anchorsAll (atEnd : Bool) : List Form → Bool
  | [] => true
  | sub :: subs => isAnchored atEnd sub && anchorsAll atEnd subs

end

/-! ## Sets and repetitions -/

/-- The only member of a set. -/
def sole? (codes : CodeSet) : Option Nat :=
  match codes.runs with
  | [run] => if run.first = run.last then some run.first else none
  | _ => none

/-- A character of a set. -/
def ofSet (bytes : Bool) (codes : CodeSet) : Form :=
  if codes.runs.isEmpty then fail
  else
    match sole? codes with
    | some code => .text (if bytes then [code] else Utf8.encode code)
    | none => .set bytes codes

/-- A form, so often. What has no bytes need not be repeated. -/
def times (low : Nat) (high : Option Nat) (greedy : Bool) (sub : Form) : Form :=
  let bare := most? sub == some 0
  let low := if bare then min low 1 else low
  let high := if bare then some ((high.map (min · 1)).getD 1) else high
  if low = 0 ∧ high = some 0 then .empty
  else if low = 1 ∧ high = some 1 then sub
  else .repeated low high greedy sub

/-! ## Rows -/

/-- The parts of a row; other forms are the only part of theirs. -/
def parts : Form → List Form
  | .row subs => subs
  | .empty => []
  | form => [form]

/-- Texts in a row become one. -/
def joinTexts : List Form → List Form
  | [] => []
  | sub :: subs =>
    match sub, joinTexts subs with
    | .text a, .text b :: rest => .text (a ++ b) :: rest
    | sub, rest => sub :: rest

/-- Forms one after the other. -/
def inRow (subs : List Form) : Form :=
  match joinTexts (subs.flatMap parts) with
  | [] => .empty
  | [sub] => sub
  | subs => .row subs

/-! ## Choices -/

/-- The branches of a choice; other forms are the only branch of theirs. -/
def branches : Form → List Form
  | .choice subs => subs
  | form => [form]

/-- The code point whose bytes the form is. -/
def character? : Form → Option Nat
  | .text [a] => if a < 0x80 then some a else none
  | .text [a, b] => if 0xC0 ≤ a then some (a % 0x20 * 0x40 + b % 0x40) else none
  | .text [a, b, c] =>
    if 0xE0 ≤ a then some (a % 0x10 * 0x1000 + b % 0x40 * 0x40 + c % 0x40) else none
  | .text [a, b, c, d] =>
    if 0xF0 ≤ a then
      some (a % 0x8 * 0x40000 + b % 0x40 * 0x1000 + c % 0x40 * 0x40 + d % 0x40)
    else none
  | _ => none

/-- The members of a set of characters. -/
def codes? : Form → Option CodeSet
  | .set _ codes => some codes
  | _ => none

/-- What all rows begin with, in as many parts as possible. -/
def commonParts : List (List Form) → List Form
  | [] => []
  | [subs] => subs
  | subs :: rest =>
    ((subs.zip (commonParts rest)).takeWhile fun (a, b) => same a b).map Prod.fst

/-- The parts of a row. -/
def rowParts? : Form → Option (List Form)
  | .row subs => some subs
  | _ => none

/-- One of several forms; common beginnings are taken out so often. -/
def choiceWithin : Nat → List Form → Form
  | bound, subs =>
    match subs.flatMap branches with
    | [] => fail
    | [sub] => sub
    | subs =>
      match subs.mapM character?, subs.mapM codes? with
      | some codes, _ => ofSet false (.ofRuns (codes.map .single))
      | none, some sets => ofSet false (.unions sets)
      | none, none =>
        match bound, subs.mapM rowParts? with
        | bound + 1, some rows =>
          let front := commonParts rows
          if front.isEmpty then .choice subs
          else
            inRow (front ++
              [choiceWithin bound (rows.map fun row => inRow (row.drop front.length))])
        | _, _ => .choice subs

/-- One of several forms. Taking out a common beginning makes them smaller, so their weight bounds
how often it happens. -/
def oneOf (subs : List Form) : Form := choiceWithin (weightList subs) subs

end Form

end Specimen.Pattern
