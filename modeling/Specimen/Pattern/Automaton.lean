import Specimen.Pattern.Form

set_option autoImplicit false

/-!
# Automata of patterns

A pattern is looked for by two automata, one that reads texts forwards and one that reads them
backwards. Both have to fit into a fixed space, or the pattern is refused. Here the automata are
not made but measured: a state takes thirty-two bytes, a link on a range of bytes that stands in a
state with others takes eight, and a branch of a fork takes four.

The characters of a set are read byte by byte. Forwards, the sequences of bytes are a tree whose
equal branches are shared as far as a table remembers them; backwards, the sequences share what
they have in common at their beginnings, as far as a smaller table remembers it.

## Main definitions

* `Specimen.Pattern.Measure` — what has been measured.
* `Specimen.Pattern.Measuring` — measuring, which stops when the space is used up.
* `Specimen.Pattern.Form.measure` — the states of a form.
* `Specimen.Pattern.Form.fits` — both automata of a form fit.
-/

namespace Specimen.Pattern

open Specimen.Text

/-! ## Space -/

/-- The states of an automaton so far, and the bytes that they take besides their own. -/
structure Measure where
  /-- The number of states. -/
  states : Nat
  /-- The bytes for links and branches. -/
  extra : Nat
  deriving DecidableEq, Repr

/-- The bytes that an automaton takes. -/
def Measure.bytes (measure : Measure) : Nat := 32 * measure.states + measure.extra

/-- The bytes that an automaton may take. -/
def space : Nat := 10 * 1024 * 1024

/-- Measuring an automaton; nothing when it does not fit. -/
abbrev Measuring := StateT Measure Option

namespace Measuring

/-- Adds to the states and the other bytes; gives the number of states before. -/
def add (states extra : Nat) : Measuring Nat := fun before =>
  let after : Measure := ⟨before.states + states, before.extra + extra⟩
  if after.bytes ≤ space then some (before.states, after) else none

/-- A state without links of its own; its number. -/
def addState : Measuring Nat := add 1 0

/-- A state with so many links on ranges of bytes; its number. -/
def addLinks (count : Nat) : Measuring Nat := add 1 (8 * count)

/-- So many branches of forks. -/
def addBranches (count : Nat) : Measuring Unit := do
  let _ ← add 0 (4 * count)

/-- A link from the last state of a part, which is a branch when the state is a fork. -/
def follow (fork : Bool) : Measuring Unit := if fork then addBranches 1 else pure ()

end Measuring

open Measuring

/-! ## Sets -/

/-- A link on a range of bytes to a state. -/
structure Link where
  /-- The range. -/
  range : Run
  /-- The number of the state. -/
  target : Nat
  deriving DecidableEq, Repr

/-- Mixes a number into a place of a table. -/
def mix (place : UInt64) (n : Nat) : UInt64 := (place ^^^ UInt64.ofNat n) * 1099511628211

/-- The place from which mixing starts. -/
def mixStart : UInt64 := 14695981039346656037

/-- Mixes a link into a place of a table. -/
def mixLink (place : UInt64) (link : Link) : UInt64 :=
  mix (mix (mix place link.range.first) link.range.last) link.target

/-- A table that remembers a state for what it does; a later state takes the place of an earlier
one that falls on it. -/
abbrev Table (α : Type) := Array (Option (α × Nat))

/-- A table of so many places. -/
def emptyTable (α : Type) (size : Nat) : Table α := Array.replicate size none

/-- The state that a table remembers at a place. -/
def Table.find? {α : Type} [DecidableEq α] (table : Table α) (place : Nat) (key : α) :
    Option Nat :=
  match table[place]? with
  | some (some (found, state)) => if found = key then some state else none
  | _ => none

/-- The number of places of the table for branches. -/
def branchPlaces : Nat := 10000

/-- The number of places of the table for beginnings. -/
def beginningPlaces : Nat := 1000

/-- A state with links, which is shared with an equal one that the table remembers. -/
def shareLinks (key : List Link) (table : Table (List Link)) :
    Measuring (Nat × Table (List Link)) := do
  let place := ((key.foldl mixLink mixStart) % UInt64.ofNat branchPlaces).toNat
  match table.find? place key with
  | some state => pure (state, table)
  | none =>
    let state ← addLinks key.length
    pure (state, table.setIfInBounds place (some (key, state)))

/-- Sequences with the same first range stand together; this range, and what follows it. -/
def groupByFirst : List (List Run) → List (Run × List (List Run))
  | [] => []
  | [] :: sequences => groupByFirst sequences
  | (range :: rest) :: sequences =>
    match groupByFirst sequences with
    | (next, rests) :: groups =>
      if range = next then (range, rest :: rests) :: groups
      else (range, [rest]) :: (next, rests) :: groups
    | [] => [(range, [rest])]

/-- The state from which sequences of so many bytes at most are read, up to a target. -/
def readForwards (target : Nat) :
    Nat → List (List Run) → Table (List Link) → Measuring (Nat × Table (List Link))
  | 0, _, table => pure (target, table)
  | depth + 1, sequences, table => do
    let (key, table) ← (groupByFirst sequences).foldlM
      (fun (key, table) (range, rests) => do
        let (next, table) ←
          if rests.all List.isEmpty then pure (target, table)
          else readForwards target depth rests table
        pure (⟨range, next⟩ :: key, table))
      (([] : List Link), table)
    shareLinks key.reverse table

/-- The first state for a sequence, which is read from its last range on; states for what sequences
begin with are shared. -/
def readBackwards (table : Table Link) :
    Nat → List Run → Measuring (Nat × Table Link)
  | before, [] => pure (before, table)
  | before, range :: rest => do
    let key : Link := ⟨range, before⟩
    let place := (mix (mix (mix mixStart before) range.first) range.last %
      UInt64.ofNat beginningPlaces).toNat
    match table.find? place key with
    | some state => readBackwards table state rest
    | none =>
      let next ← addState
      readBackwards (table.setIfInBounds place (some (key, next))) next rest

/-- The states for a set. -/
def measureSet (backwards : Bool) (codes : CodeSet) : Measuring Unit :=
  if codes.isAscii then do
    let _ ← addState
    let _ ← addLinks codes.runs.length
  else if backwards then do
    let _ ← addState
    let last ← addState
    let _ ← (Utf8.sequencesOf codes).foldlM
      (fun table sequence => do
        let (_, table) ← readBackwards table last sequence
        addBranches 1
        pure table)
      (emptyTable Link beginningPlaces)
  else do
    let target ← addState
    let _ ← readForwards target 4 (Utf8.sequencesOf codes) (emptyTable (List Link) branchPlaces)

/-! ## Texts to choose from -/

/-- Texts that share their beginnings. A text that ends where others go on closes a level, and those
after it begin another; the last level is open. -/
inductive Shelf where
  /-- The levels that are closed, the first one first, and the open level, by the next bytes. -/
  | levels (closed : List (List (Nat × Shelf))) (opened : List (Nat × Shelf))

namespace Shelf

/-- No text. -/
def empty : Shelf := .levels [] []

/-- No text goes on. -/
def isEnd : Shelf → Bool
  | .levels closed opened => closed.all List.isEmpty && opened.isEmpty

/-- A text ends. -/
def close : Shelf → Shelf
  | .levels closed opened =>
    if opened.isEmpty && closed.all List.isEmpty && !closed.isEmpty then .levels closed opened
    else .levels (closed ++ [opened]) []

/-- The open level with the shelf at a byte replaced, or added in the order of bytes. -/
def put (byte : Nat) (shelf : Shelf) : List (Nat × Shelf) → List (Nat × Shelf)
  | [] => [(byte, shelf)]
  | (next, other) :: rest =>
    if byte < next then (byte, shelf) :: (next, other) :: rest
    else if byte = next then (byte, shelf) :: rest
    else (next, other) :: put byte shelf rest

/-- One more text. -/
def insert : List Nat → Shelf → Shelf
  | [], shelf => shelf.close
  | byte :: rest, .levels closed opened =>
    let below := (opened.lookup byte).getD empty
    .levels closed (put byte (insert rest below) opened)

/-- The state for a level with so many shelves; a level without shelves has none. -/
def measureLevel : Nat → Measuring Unit
  | 0 => pure ()
  | 1 => do
    let _ ← addState
  | count => do
    let _ ← addLinks count

mutual

/-- The states for a shelf. -/
def measure : Shelf → Measuring Unit
  | .levels closed opened => do
    let forks ← measureClosed closed
    measureBelow opened
    measureLevel opened.length
    let _ ← add 1 (4 * (forks + if opened.isEmpty then 0 else 1))

/-- The states for closed levels; the number of branches that lead to them and past them. -/
def measureClosed : List (List (Nat × Shelf)) → Measuring Nat
  | [] => pure 0
  | level :: others => do
    measureBelow level
    measureLevel level.length
    let forks ← measureClosed others
    pure (forks + if level.isEmpty then 1 else 2)

/-- The states for the shelves of a level. -/
def measureBelow : List (Nat × Shelf) → Measuring Unit
  | [] => pure ()
  | (_, shelf) :: rest => do
    if shelf.isEnd then pure () else measure shelf
    measureBelow rest

end

end Shelf

/-! ## Forms -/

namespace Form

/-- The bytes of a text. -/
def bytes? : Form → Option (List Nat)
  | .text bytes => some bytes
  | _ => none

/-- The states for texts to choose from. -/
def measureTexts (backwards : Bool) (texts : List (List Nat)) : Measuring Unit := do
  let _ ← addState
  let shelf := texts.foldl
    (fun shelf text => shelf.insert (if backwards then text.reverse else text)) Shelf.empty
  shelf.measure

/-- A part so often, one after the other, after a state that may be a fork; whether the last state
is one. -/
def chainAfter (part : Measuring Bool) : Nat → Bool → Measuring Bool
  | 0, fork => pure fork
  | count + 1, fork => do
    let last ← part
    follow fork
    chainAfter part count last

/-- A part so often; whether the last state is a fork. -/
def chain (part : Measuring Bool) : Nat → Measuring Bool
  | 0 => do
    let _ ← addState
    pure false
  | count + 1 => do
    let last ← part
    chainAfter part count last

/-- So many times a fork before a part that may be left out with all that follows. -/
def ladder (part : Measuring Bool) : Nat → Bool → Measuring Bool
  | 0, fork => pure fork
  | count + 1, fork => do
    let _ ← addState
    let last ← part
    follow fork
    addBranches 2
    ladder part count last

/-- A repetition of a part that may have no bytes, or not; whether the last state is a fork. -/
def measureRepeated (part : Measuring Bool) (bare : Bool) (low : Nat) : Option Nat → Measuring Bool
  | none =>
    if low = 0 then do
      if bare then
        let last ← part
        let _ ← addState
        follow last
        addBranches 1
        let _ ← addState
        let _ ← addState
        addBranches 3
        pure false
      else
        let _ ← addState
        let last ← part
        addBranches 1
        follow last
        pure true
    else do
      let fork ← if low = 1 then pure false else chain part (low - 1)
      let last ← part
      let _ ← addState
      follow fork
      follow last
      addBranches 1
      pure true
  | some high =>
    if low = 0 ∧ high = 1 then do
      let _ ← addState
      let last ← part
      let _ ← addState
      addBranches 2
      follow last
      pure false
    else if low = high then chain part low
    else do
      let fork ← chain part low
      let _ ← addState
      let last ← ladder part (high - low) fork
      follow last
      pure false

mutual

/-- The states of a form; whether the last one is a fork. -/
def measure (backwards : Bool) : Form → Measuring Bool
  | .empty => do
    let _ ← addState
    pure false
  | .text bytes => do
    let _ ← add bytes.length 0
    pure false
  | .set _ codes => do
    measureSet backwards codes
    pure false
  | .look _ => do
    let _ ← addState
    pure false
  | .repeated low high _ sub =>
    measureRepeated (measure backwards sub) ((least? sub).getD 0 == 0) low high
  | .group _ sub =>
    if backwards then measure backwards sub
    else do
      let _ ← addState
      let last ← measure backwards sub
      let _ ← addState
      follow last
      pure false
  | .row subs => measureRow backwards subs
  | .choice subs =>
    match subs.mapM bytes? with
    | some texts => do
      measureTexts backwards texts
      pure false
    | none => do
      measureChoice backwards 0 subs
      pure false

/-- The states of forms one after the other. -/
def measureRow (backwards : Bool) : List Form → Measuring Bool
  | [] => do
    let _ ← addState
    pure false
  | [sub] => measure backwards sub
  | sub :: next :: subs =>
    if backwards then do
      let fork ← measureRow backwards (next :: subs)
      let last ← measure backwards sub
      follow fork
      pure last
    else do
      let fork ← measure backwards sub
      let last ← measureRow backwards (next :: subs)
      follow fork
      pure last

/-- The states of forms to choose from, so many having been measured. After the second, there are
the fork and the state at the end. -/
def measureChoice (backwards : Bool) (count : Nat) : List Form → Measuring Unit
  | [] => pure ()
  | sub :: subs => do
    let last ← measure backwards sub
    if count = 1 then
      let _ ← add 2 0
    addBranches 1
    follow last
    measureChoice backwards (count + 1) subs

end

/-- An automaton of a form: it looks at all places of a text, unless the form is anchored, and it
notes where a match begins and ends when it reads forwards. -/
def measureAutomaton (backwards : Bool) (form : Form) : Measuring Unit := do
  let anchored := form.isAnchored backwards
  if anchored then
    let _ ← addState
  else
    let _ ← addState
    let _ ← addState
    let _ ← addLinks 1
    addBranches 1
  let last ← measure backwards (if backwards then form else .group 0 form)
  let _ ← addState
  follow last
  follow !anchored

/-- Both automata of a form fit into the space. -/
def fits (form : Form) : Bool :=
  ((form.measureAutomaton false).run ⟨0, 0⟩).isSome &&
    ((form.measureAutomaton true).run ⟨0, 0⟩).isSome

end Form

end Specimen.Pattern
