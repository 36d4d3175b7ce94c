import Specimen.Generation.Execution
import Specimen.Pattern.Span
import Specimen.Placeholder.Resolution
import Specimen.Rule.Key

set_option autoImplicit false

/-!
# Generation

A template denotes a producer. An object generates its members in order; each is kept in the scope
of the object and in the ledger, where later members find it. An array generates its items one after
the other in its own scope. In a text patterns are replaced first and tokens after that.

The denotation is built bottom up: the parts of a value come with it, so that a rule of a member can
generate a single item of an array, or an object with some of its members, in place of the value.

## Main definitions

* `Specimen.Engine.produceText` — the producer of a text.
* `Specimen.Entry`, `Specimen.Engine.produceEntries` — the members of an object, and the producer of
  an object.
* `Specimen.Engine.parts` — the producers of a value and its parts.
* `Specimen.Engine.generateIn`, `Specimen.Engine.generate` — generation in a scope, and from the
  start.

## Main results

* `Specimen.Engine.parts_eq_of` — the parts of a value are those that generation gives to it.
-/

namespace Specimen

/-- A member of an object with the parts of its value. -/
structure Entry where
  /-- The key. -/
  key : String
  /-- The value in the template. -/
  value : Json
  /-- The producers of the value and its parts. -/
  parts : Parts

namespace Engine

/-! ## Texts -/

/-- The producer of a text. -/
def produceText (engine : Engine) (text : String) : Producer := fun scope => do
  let expanded ← Gen.draw (Pattern.expand text.toList)
  let ledger ← Gen.ledger
  Gen.draw (engine.resolve (scope.find? ledger) expanded)

/-! ## Objects and arrays -/

/-- The value of a member, whose kind decides what its rule means. No value has no rule. -/
def produceEntry (entry : Entry) : Producer := fun scope =>
  match entry.value.kind? with
  | none => pure .null
  | some kind =>
    let reading := Key.read entry.key kind
    Rule.execute reading.rule? entry.value entry.parts (scope.child reading.name)

/-- The members generated from entries, added to those that are there. -/
def produceEntriesFrom : List Entry → Dictionary Json → Scope → Gen (Dictionary Json)
  | [], made, _ => pure made
  | entry :: entries, made, scope => do
    let name := Key.name entry.key
    let value ← produceEntry entry scope
    Gen.update fun ledger => ledger.record (scope.key name) value
    produceEntriesFrom entries (made.set name value) (scope.record name value)

/-- The producer of an object. -/
def produceEntries (entries : List Entry) : Producer := fun scope =>
  Json.obj <$> produceEntriesFrom entries [] scope

/-- The values of producers, one after the other. -/
def produceItemsFrom : List Producer → Scope → Gen (List Json)
  | [], _ => pure []
  | producer :: producers, scope => do
    let first ← producer scope
    let rest ← produceItemsFrom producers scope
    pure (first :: rest)

/-- The producer of an array. -/
def produceItems (producers : List Producer) : Producer := fun scope =>
  Json.arr <$> produceItemsFrom producers scope

/-! ## Templates -/

/-- The parts of a value whose producer is given and that has no parts of its own. -/
def leaf (producer : Producer) : Parts := ⟨Draw.positions, producer, [], fun _ => producer⟩

mutual

/-- The producers of a value and of its parts. -/
def parts (engine : Engine) : Json → Parts
  | .null => leaf fun _ => pure .null
  | .bool value => leaf fun _ => pure (.bool value)
  | .num number => leaf fun _ => pure (.num number)
  | .str text => leaf (engine.produceText text)
  | .arr items =>
    let producers := engine.itemProducers items
    ⟨Draw.positions, produceItems producers, producers, fun _ => produceItems producers⟩
  | .obj members =>
    let entries := engine.entries members
    ⟨Draw.positions, produceEntries entries, [],
      fun positions => produceEntries (Parts.select entries positions)⟩

/-- The producers of items. -/
def itemProducers (engine : Engine) : List Json → List Producer
  | [] => []
  | item :: items => (engine.parts item).whole :: engine.itemProducers items

/-- The entries of members. -/
def entries (engine : Engine) : List (String × Json) → List Entry
  | [] => []
  | (key, value) :: members => ⟨key, value, engine.parts value⟩ :: engine.entries members

end

/-- The producer of a template. -/
def generateIn (engine : Engine) (template : Json) : Producer := (engine.parts template).whole

/-- The value generated from a template in a scope of its own, with a ledger of its own. -/
def generate (engine : Engine) (template : Json) : Draw Json := fun source =>
  let (value, progress) := (engine.generateIn template Scope.root).run ⟨source, Ledger.empty⟩
  (value, progress.source)

/-! ## Parts and generation -/

theorem itemProducers_eq_map (engine : Engine) (items : List Json) :
    engine.itemProducers items = items.map engine.generateIn := by
  induction items with
  | nil => rfl
  | cons item items ih => simp [itemProducers, generateIn, ih]

/-- The entry of a member. -/
def entry (engine : Engine) (member : String × Json) : Entry :=
  ⟨member.1, member.2, engine.parts member.2⟩

theorem entries_eq_map (engine : Engine) (members : List (String × Json)) :
    engine.entries members = members.map engine.entry := by
  induction members with
  | nil => rfl
  | cons member members ih => simp [entries, entry, ih]

theorem parts_eq_of (engine : Engine) (value : Json) :
    engine.parts value = Parts.of Draw.positions engine.generateIn value := by
  cases value with
  | arr items => simp [parts, Parts.of, generateIn, itemProducers_eq_map]
  | obj members =>
    simp only [parts, Parts.of, generateIn, Parts.mk.injEq, true_and]
    funext positions
    simp [entries_eq_map, Parts.select_map]
  | _ => rfl

end Engine

end Specimen
