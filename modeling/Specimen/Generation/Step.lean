import Specimen.Random.Sample
import Specimen.Scope.Basic

set_option autoImplicit false

/-!
# Steps of generation

A step of generation takes random words and changes the ledger of the run. A producer is the
meaning of a template: given a scope, it is the step that generates a value there.

## Main definitions

* `Specimen.Progress` — the random source and the ledger.
* `Specimen.Gen` — a step of generation.
* `Specimen.Producer` — what a template means.
* `Specimen.Parts` — the producers of a template value and of its parts.
* `Specimen.Parts.select` — the members of an object at some positions.

## Main results

* `Specimen.Parts.select_sublist` — members that are selected are members in their order.
-/

namespace Specimen

/-- How far a run has come. -/
structure Progress where
  /-- The random source. -/
  source : Source
  /-- The ledger of the run. -/
  ledger : Ledger
  deriving Inhabited

/-- A step of generation. -/
abbrev Gen := StateM Progress

namespace Gen

/-- A step that only takes random words. -/
def draw {α : Type} (step : Draw α) : Gen α := fun progress =>
  let (result, source) := step.run progress.source
  (result, { progress with source := source })

/-- The ledger. -/
def ledger : Gen Ledger := fun progress => (progress.ledger, progress)

/-- A step that only changes the ledger. -/
def update (change : Ledger → Ledger) : Gen Unit := fun progress =>
  ((), { progress with ledger := change progress.ledger })

/-- Reads a counter and moves it on. -/
def advance (key : String) (seed step : Int) : Gen Int := fun progress =>
  let (current, ledger) := progress.ledger.advance key seed step
  (current, { progress with ledger := ledger })

end Gen

/-- What a template means: the step that generates a value in a scope. -/
abbrev Producer := Scope → Gen Json

/-- The producers of a template value and of its parts, and how members of an object are chosen. -/
structure Parts where
  /-- The sampler of positions. -/
  sampler : Sampler
  /-- The producer of the value. -/
  whole : Producer
  /-- The producers of the items of an array. -/
  items : List Producer
  /-- The producer of an object with only the members at some positions. -/
  restricted : List Nat → Producer

namespace Parts

section Select

variable {α β : Type}

/-- The members of an object, the first of which stands at `index`, at some positions. Members and
positions are gone through side by side, and a position is used up when its member is reached. -/
def selectFrom (index : Nat) : List α → List Nat → List α
  | [], _ => []
  | member :: members, positions =>
    if positions.head? = some index then
      member :: selectFrom (index + 1) members positions.tail
    else selectFrom (index + 1) members positions

/-- The members of an object at some positions, in ascending order. -/
def select (members : List α) (positions : List Nat) : List α := selectFrom 0 members positions

theorem selectFrom_sublist (index : Nat) (members : List α) (positions : List Nat) :
    (selectFrom index members positions).Sublist members := by
  induction members generalizing index positions with
  | nil => exact .slnil
  | cons member members ih =>
    unfold selectFrom
    split
    · exact (ih _ _).cons_cons member
    · exact (ih _ _).cons member

/-- **What is selected keeps its order**, whatever the positions are. -/
theorem select_sublist (members : List α) (positions : List Nat) :
    (select members positions).Sublist members := selectFrom_sublist 0 members positions

theorem selectFrom_map (f : α → β) (index : Nat) (members : List α) (positions : List Nat) :
    selectFrom index (members.map f) positions = (selectFrom index members positions).map f := by
  induction members generalizing index positions with
  | nil => rfl
  | cons member members ih => simp only [List.map_cons, selectFrom, ih, apply_ite (List.map f)]

/-- A function of the members does not matter for the selection. -/
theorem select_map (f : α → β) (members : List α) (positions : List Nat) :
    select (members.map f) positions = (select members positions).map f :=
  selectFrom_map f 0 members positions

end Select

/-- The parts of a value when every value is generated by the same function. -/
def of (sampler : Sampler) (generate : Json → Producer) (value : Json) : Parts where
  sampler := sampler
  whole := generate value
  items :=
    match value with
    | .arr items => items.map generate
    | _ => []
  restricted positions :=
    match value with
    | .obj members => generate (.obj (select members positions))
    | other => generate other

end Parts

end Specimen
