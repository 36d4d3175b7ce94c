import Specimen.Dictionary
import Specimen.Integer
import Specimen.Json.Basic

set_option autoImplicit false

/-!
# Scopes and the ledger of a run

A scope is the place of a property in a template: the chain of property names that leads to it, and
the values generated earlier at that place or around it. A scope's values are copied into the scopes
derived from it and never flow back.

What all scopes of one run share is the ledger: the running counters, and every generated value
under its full path.

## Main definitions

* `Specimen.Scope`, `Specimen.Ledger` — a place with its values, and what a run shares.
* `Specimen.Scope.key`, `Specimen.Scope.child` — the full path of a property, and its scope.
* `Specimen.Ledger.advance` — reads a counter and moves it on.
* `Specimen.Scope.record`, `Specimen.Ledger.record` — a value is kept in the scope and in the
  ledger.
* `Specimen.Scope.find?` — the value that a reference means.

## Main results

* `Specimen.Ledger.counter?_advance` — moving one counter leaves the others alone.
* `Specimen.Ledger.value?_record` — keeping one value leaves the others alone.
-/

namespace Specimen

/-- A place in a template with the values known there. -/
structure Scope where
  /-- The names that lead to the place, with points between them. -/
  path : String
  /-- The values generated earlier at the place and around it. -/
  locals : Dictionary Json
  deriving Inhabited

/-- What all scopes of a run share. -/
structure Ledger where
  /-- The running counters, by key. -/
  counters : Dictionary Int
  /-- The generated values, by full path. -/
  values : Dictionary Json
  deriving Inhabited

namespace Scope

/-- The place where a run begins. -/
def root : Scope := ⟨"", []⟩

/-- The full path of a property of the place. -/
def key (scope : Scope) (name : String) : String :=
  if scope.path = "" then name else scope.path ++ "." ++ name

/-- The place of a property, which knows what the scope knows so far. -/
def child (scope : Scope) (name : String) : Scope := ⟨scope.key name, scope.locals⟩

/-- Keeps a value under a name. -/
def record (scope : Scope) (name : String) (value : Json) : Scope :=
  { scope with locals := scope.locals.set name value }

/-- The value kept under a name. -/
def local? (scope : Scope) (name : String) : Option Json := scope.locals.get? name

end Scope

namespace Ledger

/-- The ledger of a run that begins. -/
def empty : Ledger := ⟨[], []⟩

/-- The counter under a key. -/
def counter? (ledger : Ledger) (key : String) : Option Int := ledger.counters.get? key

/-- The value of a counter, and the ledger in which it has moved on by a step. A counter that is
not there yet starts at the seed; at the ends of the range it stays. -/
def advance (ledger : Ledger) (key : String) (seed step : Int) : Int × Ledger :=
  let current := (ledger.counter? key).getD seed
  (current,
    { ledger with counters := ledger.counters.set key (Integer.saturate (current + step)) })

/-- The value generated at a full path. -/
def value? (ledger : Ledger) (path : String) : Option Json := ledger.values.get? path

/-- Keeps a value under a full path. -/
def record (ledger : Ledger) (path : String) (value : Json) : Ledger :=
  { ledger with values := ledger.values.set path value }

theorem counter?_advance (ledger : Ledger) (key other : String) (seed step : Int) :
    (ledger.advance key seed step).2.counter? other =
      if key = other then
        some (Integer.saturate ((ledger.counter? key).getD seed + step))
      else ledger.counter? other := by
  simp only [advance, counter?, Dictionary.get?_set]

theorem value?_record (ledger : Ledger) (path other : String) (value : Json) :
    (ledger.record path value).value? other =
      if path = other then some value else ledger.value? other := by
  simp only [value?, record, Dictionary.get?_set]

end Ledger

/-- The value that a reference means: with a point in it the value at a full path, otherwise a value
of the scope. -/
def Scope.find? (scope : Scope) (ledger : Ledger) (reference : String) : Option Json :=
  if '.' ∈ reference.toList then ledger.value? reference else scope.local? reference

end Specimen
