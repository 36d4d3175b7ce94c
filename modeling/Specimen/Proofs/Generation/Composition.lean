import Specimen.Proofs.Generation.Run

set_option autoImplicit false

/-!
# Properties that pass through generation

A run of generation is put together from few kinds of steps: draws, counters that are read and move
on, values that are recorded, and texts that are resolved. A property of steps that passes to their
sequence is therefore a property of whole runs as soon as these steps have it. The rules and the
parts of values are gone through once, here.

## Main definitions

* `Specimen.StepKind` — what a rule of a step counts, and the key of its counter.
* `Specimen.Engine.Respects` — the single steps of generation have a property.

## Main results

* `Specimen.Gen.Sequential.execute` — what executing a rule has for a property.
* `Specimen.Engine.Respects.generateIn` — a run has the property that its steps have.
-/

namespace Specimen

/-! ## Counters of rules -/

/-- What a rule of a step counts. -/
inductive StepKind where
  /-- Numbers that go on by the step. -/
  | number
  /-- The turns of the items of an array. -/
  | turn
  deriving DecidableEq, Repr

/-- The key of the counter of a property whose path is written so. -/
def StepKind.key : StepKind → String → String
  | .number, path => path
  | .turn, path => path ++ Rule.positionSuffix

namespace Rule

/-- What a rule counts; most rules count nothing. -/
def stepKind? : Rule → Option StepKind
  | .numberIncrement _ => some .number
  | .arrayPickSequential _ => some .turn
  | _ => none

/-- Rules that count are the rules of a step. -/
theorem isStep_of_stepKind? {rule : Rule} {kind : StepKind} (h : rule.stepKind? = some kind) :
    rule.isStep = true := by
  cases rule <;> first | rfl | cases h

end Rule

/-! ## Rules -/

namespace Gen.Sequential

variable {property : ∀ α : Type, Gen α → Prop} (hseq : Gen.Sequential property)
  (hdraw : ∀ (α : Type) (step : Draw α), property α (Gen.draw step))

include hseq hdraw

omit hdraw in
/-- A pick has the property when all items have it, and the draw of the position. -/
theorem pickItem {items : List Producer} {scope : Scope}
    (hposition : property Nat (Gen.draw (Draw.index items.length)))
    (h : ∀ item ∈ items, property Json (item scope)) :
    property Json (Rule.pickItem items scope) := by
  refine hseq.bind hposition fun position => ?_
  cases hitem : items[position]? with
  | none => simpa [List.getD, hitem] using hseq.pure Json.null
  | some item => simpa [List.getD, hitem] using h item (List.mem_of_getElem? hitem)

omit hdraw in
/-- Repeated picks have the property when each of them has it. -/
theorem repeatPicks {value : Json} {parts : Parts} {scope : Scope}
    (h : property Json (Rule.pickItem parts.items scope)) (count : Int) :
    property Json (Rule.repeatPicks value parts count scope) := by
  unfold Rule.repeatPicks
  split
  · exact hseq.pure _
  · exact hseq.map _ (hseq.many h _)
  · exact hseq.pure _

/-- An object with some of its members has the property when all such objects have it. -/
theorem pickMembers {value : Json} {parts : Parts} {scope : Scope}
    (h : ∀ positions, property Json (parts.restricted positions scope)) (count : Int) :
    property Json (Rule.pickMembers value parts count scope) := by
  unfold Rule.pickMembers
  split
  · exact hseq.bind (hdraw _ _) h
  · exact hseq.pure _

/-- A number with a random fraction only draws. -/
theorem decimal (value : Json) (whole places : Int) :
    property Json (Rule.decimal value whole places) := by
  refine hseq.bind (hdraw Int _) fun fraction => ?_
  dsimp only
  split <;> exact hseq.pure _

omit hdraw in
/-- The next item in turn has the property when all items have it, and the counter of turns. -/
theorem pickInTurn {items : List Producer} {scope : Scope} {step : Int}
    (hturn : property Int (Gen.advance (StepKind.turn.key scope.path) 0 step))
    (h : ∀ item ∈ items, property Json (item scope)) :
    property Json (Rule.pickInTurn items step scope) := by
  refine hseq.bind hturn fun turn => ?_
  cases hitem : items[(turn % items.length).toNat]? with
  | none => simpa [List.getD, hitem] using hseq.pure Json.null
  | some item => simpa [List.getD, hitem] using h item (List.mem_of_getElem? hitem)

omit hdraw in
/-- A pick from a value has the property when it has it on arrays. -/
theorem pickFrom {value : Json} {pick : Producer} {scope : Scope} (h : property Json (pick scope)) :
    property Json (Rule.pickFrom value pick scope) := by
  unfold Rule.pickFrom
  split
  · exact h
  · exact hseq.pure _

/-- **Executing a rule has the property** when the parts of the value have it, and the counter that
the rule reads, if it reads one.

**Proof sketch.** Rule by rule. What a rule does is put together from draws, from one counter at
most, and from the generation of parts, and all of these have the property. -/
theorem execute {sampler : Sampler} {generate : Json → Producer} {rule : Option Rule}
    {value : Json} {scope : Scope}
    (hparts : ∀ part, Json.IsPart part value → property Json (generate part scope))
    (hstep : ∀ kind, rule.bind Rule.stepKind? = some kind → ∀ seed step,
      property Int (Gen.advance (kind.key scope.path) seed step)) :
    property Json (Rule.execute rule value (Parts.of sampler generate value) scope) := by
  have hitems : ∀ item ∈ (Parts.of sampler generate value).items, property Json (item scope) :=
    Parts.forall_mem_items hparts
  have hpick : property Json (Rule.pickItem (Parts.of sampler generate value).items scope) :=
    hseq.pickItem (hdraw Nat _) hitems
  have hrestricted : ∀ positions,
      property Json ((Parts.of sampler generate value).restricted positions scope) := by
    intro positions
    cases value with
    | obj members => exact hparts _ (.members (Parts.select_sublist _ _).subset)
    | _ => exact hparts _ (.whole _)
  cases rule with
  | none => exact hparts value (.whole value)
  | some rule =>
    simp only [Rule.execute]
    split
    case isFalse => exact hparts value (.whole value)
    cases rule with
    | stringRange min max => exact hseq.map _ (hdraw _ _)
    | stringCount count => exact hseq.pure _
    | numberIncrement step => exact hseq.map _ (hstep .number rfl _ step)
    | numberRange min max => exact hseq.map _ (hdraw _ _)
    | floatRange min max minPlaces maxPlaces =>
      exact hseq.bind (hdraw _ _) fun whole => hseq.bind (hdraw _ _) fun places =>
        hseq.decimal hdraw value whole places
    | floatCount count minPlaces maxPlaces =>
      exact hseq.bind (hdraw _ _) fun places => hseq.decimal hdraw value count places
    | floatRangeFixed min max places =>
      exact hseq.bind (hdraw _ _) fun whole => hseq.decimal hdraw value whole places
    | floatFixed count places => exact hseq.decimal hdraw value count places
    | booleanRandom => exact hseq.map _ (hdraw _ _)
    | booleanWeighted min max => exact hseq.map _ (hdraw _ _)
    | objectCount count => exact hseq.pickMembers hdraw hrestricted count
    | objectRange min max =>
      exact hseq.bind (hdraw _ _) fun count => hseq.pickMembers hdraw hrestricted count
    | arrayPickOne => exact hseq.pickFrom hpick
    | arrayPickSequential step =>
      exact hseq.pickFrom (hseq.pickInTurn (hstep .turn rfl 0 step) hitems)
    | arrayRepeatRange min max =>
      exact hseq.bind (hdraw _ _) fun count => hseq.repeatPicks hpick count
    | arrayRepeatCount count => exact hseq.repeatPicks hpick count

end Gen.Sequential

/-! ## Whole runs -/

namespace Engine

/-- The single steps of generation have a property, in the templates that fit the place where they
are generated. -/
structure Respects (engine : Engine) (property : ∀ α : Type, Gen α → Prop)
    (fits : String → Json → Prop) : Prop where
  /-- The property passes to the sequence of steps. -/
  sequential : Gen.Sequential property
  /-- Draws have it. -/
  draw : ∀ (α : Type) (step : Draw α), property α (Gen.draw step)
  /-- Items fit where the array does. -/
  item : ∀ {path : String} {items : List Json} {item : Json},
    fits path (.arr items) → item ∈ items → fits path item
  /-- The parts of the value of a member fit in the place of the member. -/
  part : ∀ {scope : Scope} {members : List (String × Json)} {member : String × Json} {part : Json},
    fits scope.path (.obj members) → member ∈ members → Json.IsPart part member.2 →
      fits (scope.key (Key.name member.1)) part
  /-- Texts have the property. -/
  text : ∀ {scope : Scope} {text : String}, fits scope.path (.str text) →
    property Json (engine.produceText text scope)
  /-- Records of the values of members have it. -/
  record : ∀ {scope : Scope} {members : List (String × Json)} {member : String × Json},
    fits scope.path (.obj members) → member ∈ members → ∀ value, property Unit
      (Gen.update fun ledger => ledger.record (scope.key (Key.name member.1)) value)
  /-- Counters of members have it. -/
  step : ∀ {scope : Scope} {members : List (String × Json)} {member : String × Json}
    {kind : StepKind}, fits scope.path (.obj members) → member ∈ members →
      (Key.usable? member.1 member.2).bind Rule.stepKind? = some kind → ∀ seed step,
        property Int (Gen.advance (kind.key (scope.key (Key.name member.1))) seed step)

namespace Respects

variable {engine : Engine} {property : ∀ α : Type, Gen α → Prop} {fits : String → Json → Prop}
  (h : engine.Respects property fits)

include h

/-- Members added to what is there have the property when the parts of their values have it. -/
theorem of_parts {members : List (String × Json)} {scope : Scope}
    (hfits : fits scope.path (.obj members))
    (hparts : ∀ member ∈ members, ∀ part, Json.IsPart part member.2 → ∀ place : Scope,
      fits place.path part → property Json (engine.generateIn part place))
    (made : Dictionary Json) :
    property (Dictionary Json) (produceEntriesFrom (members.map engine.entry) made scope) := by
  refine h.sequential.produceEntriesFrom (fun entry hentry inner hinner => ?_)
    (fun entry hentry inner hinner => ?_) rfl made
  · obtain ⟨member, hmember, rfl⟩ := List.mem_map.1 hentry
    rw [← hinner] at hfits
    rw [produceEntry_entry]
    refine h.sequential.execute h.draw (fun part hpart => ?_) fun kind hkind => ?_
    · exact hparts member hmember part hpart _ (h.part hfits hmember hpart)
    · exact h.step hfits hmember hkind
  · obtain ⟨member, hmember, rfl⟩ := List.mem_map.1 hentry
    rw [← hinner] at hfits
    exact h.record hfits hmember

/-- **A run has the property that its steps have**, by induction over values and their parts.

**Proof sketch.** Texts are resolved and kept in one step. An array takes its items in order, and
the members of an object are executed and kept one after the other, where the parts of their values
have the property by induction. -/
theorem generateIn {template : Json} {scope : Scope} (hfits : fits scope.path template) :
    property Json (engine.generateIn template scope) := by
  have hall : template.Everywhere fun _ => True := fun _ _ => trivial
  have hselective : Json.Selective fun _ => True := fun _ _ _ _ => trivial
  induction hall using Json.Everywhere.parts_induction hselective generalizing scope with
  | null => exact h.sequential.pure _
  | bool => exact h.sequential.pure _
  | num => exact h.sequential.pure _
  | str => exact h.text hfits
  | arr items _ ih =>
    rw [generateIn_arr]
    refine h.sequential.map _ (h.sequential.produceItemsFrom fun producer hproducer => ?_)
    obtain ⟨item, hitem, rfl⟩ := List.mem_map.1 hproducer
    exact ih item hitem (h.item hfits hitem)
  | obj members _ ih =>
    rw [generateIn_obj]
    exact h.sequential.map _ (h.of_parts hfits (fun member hmember part hpart _ hplace =>
      ih member hmember part hpart hplace) [])

/-- The same for members that are added to what is there. -/
theorem produceEntriesFrom {members : List (String × Json)} {scope : Scope}
    (hfits : fits scope.path (.obj members)) (made : Dictionary Json) :
    property (Dictionary Json) (Engine.produceEntriesFrom (members.map engine.entry) made scope) :=
  h.of_parts hfits (fun _ _ _ _ _ hplace => h.generateIn hplace) made

end Respects

end Engine

end Specimen
