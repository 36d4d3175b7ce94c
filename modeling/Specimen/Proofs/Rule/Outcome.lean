import Mathlib.Data.List.GetD
import Specimen.Generation.Basic
import Specimen.Proofs.Json.Nodes
import Specimen.Proofs.Random.Draws
import Specimen.Proofs.Rule.Reading

set_option autoImplicit false

/-!
# What executing a rule comes to

There are sixteen rules, but only a few things that one of them can do to a value: generate a part
of it, generate several of its items, draw a number or a truth value, repeat a text, count on, or
leave the value alone. A statement about generation goes through these few outcomes and does not
look at the rules.

## Main definitions

* `Specimen.Rule.Outcome` — the outcomes of a usable rule, or of none.
* `Specimen.Rule.HandsOver` — a rule that comes to one generation.

## Main results

* `Specimen.Rule.outcome_execute` — executing a rule has one of the outcomes.
* `Specimen.Engine.produceEntry_entry` — the value of a member is what its usable rule makes of it.
* `Specimen.Engine.exists_outcome` — a member is generated with one of the outcomes.
-/

namespace Specimen

/-! ## Kinds and values -/

namespace Json

theorem exists_eq_str {value : Json} (h : value.kind? = some .string) :
    ∃ text, value = .str text := by
  cases value <;> first | exact ⟨_, rfl⟩ | cases h

theorem exists_eq_arr {value : Json} (h : value.kind? = some .array) :
    ∃ items, value = .arr items := by
  cases value <;> first | exact ⟨_, rfl⟩ | cases h

theorem exists_eq_obj {value : Json} (h : value.kind? = some .object) :
    ∃ members, value = .obj members := by
  cases value <;> first | exact ⟨_, rfl⟩ | cases h

end Json

/-- What the parts of a value have the items have from which a rule picks. -/
theorem Parts.forall_mem_items {sampler : Sampler} {generate : Json → Producer} {value : Json}
    {P : Producer → Prop}
    (h : ∀ part, Json.IsPart part value → P (generate part)) :
    ∀ item ∈ (of sampler generate value).items, P item := by
  cases value with
  | arr items =>
    intro producer hproducer
    obtain ⟨item, hitem, rfl⟩ := List.mem_map.1 hproducer
    exact h item (.item hitem)
  | _ => exact nofun

namespace Rule

/-! ## Outcomes -/

/-- What executing a rule that can be used, or none, comes to, where every value is generated by the
same function: a result, and how far the run has come. -/
inductive Outcome (generate : Json → Producer) (rule : Option Rule) (value : Json) (scope : Scope)
    (progress : Progress) : Json × Progress → Prop where
  /-- A part of the value is generated, perhaps after some draws. -/
  | part {part : Json} (source : Source) (hpart : Json.IsPart part value) :
    Outcome generate rule value scope progress
      ((generate part scope).run { progress with source := source })
  /-- The item whose turn it is is generated. -/
  | turn {items : List Json} {item : Json} {step : Int} (hvalue : value = .arr items)
      (hitem : item ∈ items) (hrule : rule = some (.arrayPickSequential step)) :
    Outcome generate rule value scope progress
      ((generate item scope).run
        ((Gen.advance (scope.path ++ positionSuffix) 0 step).run progress).2)
  /-- Items are picked and generated, so many times. -/
  | picks {items : List Json} (count : Nat) (source : Source) (hvalue : value = .arr items)
      (hitems : items ≠ []) :
    Outcome generate rule value scope progress
      ((Json.arr <$> many count (pickItem (items.map generate) scope)).run
        { progress with source := source })
  /-- Nothing can be picked from an array without items. -/
  | empty (source : Source) (hvalue : value = .arr []) :
    Outcome generate rule value scope progress (.arr [], { progress with source := source })
  /-- A text is repeated. -/
  | repeated {text : String} (count : Int) (source : Source) (hvalue : value = .str text) :
    Outcome generate rule value scope progress
      (repeatText value count, { progress with source := source })
  /-- A counter is read and moves on. -/
  | counted {step : Int} (hrule : rule = some (.numberIncrement step)) :
    Outcome generate rule value scope progress ((increment value step scope).run progress)
  /-- A number or a truth value is drawn. -/
  | drawn {result : Json} (source : Source)
      (hresult : result.kind? = some .number ∨ result.kind? = some .boolean) :
    Outcome generate rule value scope progress (result, { progress with source := source })
  /-- A number with a point cannot be made, and the value stays. -/
  | kept {fraction : Rule} (source : Source) (hrule : rule = some fraction)
      (hfraction : fraction.isFraction = true) :
    Outcome generate rule value scope progress (value, { progress with source := source })

/-- Executing a rule on a value comes to generating a value in its place, in the same scope and from
some state, whatever generation is. -/
def HandsOver (sampler : Sampler) (rule : Rule) (value : Json) (scope : Scope) (start : Progress)
    (part : Json) (reached : Progress) : Prop :=
  ∀ generate : Json → Producer,
    (execute (some rule) value (Parts.of sampler generate value) scope).run start =
      (generate part scope).run reached

/-- There is only one value that is generated, and one state to generate it from. -/
theorem HandsOver.unique {sampler : Sampler} {rule : Rule} {value part other : Json} {scope : Scope}
    {start reached later : Progress} (h : HandsOver sampler rule value scope start part reached)
    (hother : HandsOver sampler rule value scope start other later) :
    part = other ∧ reached = later :=
  -- A generation that gives back what it is asked for shows both.
  Prod.mk.injEq .. ▸ (h fun part _ => pure part).symm.trans (hother fun part _ => pure part)

/-! ## Picks and fractions -/

/-- A pick from an array that has items generates the one at the position that is drawn. -/
theorem run_pickItem_drawn (generate : Json → Producer) {items : List Json} (hitems : items ≠ [])
    (scope : Scope) (progress : Progress) :
    ∃ item, items[((Draw.index items.length).run progress.source).1]? = some item ∧
      (pickItem (items.map generate) scope).run progress = (generate item scope).run
        { progress with source := ((Draw.index items.length).run progress.source).2 } := by
  have hindex := Draw.index_lt (List.length_pos_iff.2 hitems) progress.source
  refine ⟨_, List.getElem?_eq_getElem hindex, ?_⟩
  simp only [pickItem, run_bind, List.length_map]
  change (((items.map generate).getD ((Draw.index items.length).run progress.source).1
    fun _ => pure .null) scope).run _ = _
  rw [List.getD_eq_getElem _ _ (by simpa using hindex), List.getElem_map]
  rfl

/-- A pick from an array that has items generates one of them. -/
theorem run_pickItem (generate : Json → Producer) {items : List Json} (hitems : items ≠ [])
    (scope : Scope) (progress : Progress) :
    ∃ item ∈ items, ∃ source, (pickItem (items.map generate) scope).run progress =
      (generate item scope).run { progress with source := source } := by
  obtain ⟨item, hitem, hrun⟩ := run_pickItem_drawn generate hitems scope progress
  exact ⟨item, List.mem_of_getElem? hitem, _, hrun⟩

/-- The position of a turn is one of the list. -/
theorem turn_lt {length : Nat} (h : 0 < length) (turn : Int) :
    (turn % length).toNat < length := by
  have hlow := Int.emod_nonneg turn (by omega : (length : Int) ≠ 0)
  have hhigh := Int.emod_lt_of_pos turn (by omega : (0 : Int) < length)
  omega

/-- The next item in turn is generated after its counter has moved on. -/
theorem run_pickInTurn (generate : Json → Producer) {items : List Json} (hitems : items ≠ [])
    (step : Int) (scope : Scope) (progress : Progress) :
    ∃ item, items[(((Gen.advance (scope.path ++ positionSuffix) 0 step).run progress).1 %
        items.length).toNat]? = some item ∧
      (pickInTurn (items.map generate) step scope).run progress = (generate item scope).run
        ((Gen.advance (scope.path ++ positionSuffix) 0 step).run progress).2 := by
  have hturn := turn_lt (List.length_pos_iff.2 hitems)
    ((Gen.advance (scope.path ++ positionSuffix) 0 step).run progress).1
  refine ⟨_, List.getElem?_eq_getElem hturn, ?_⟩
  simp only [pickInTurn, run_bind, List.length_map]
  rw [List.getD_eq_getElem _ _ (by simpa using hturn), List.getElem_map]

/-- A number with a random fraction is drawn, or the value is kept where it cannot be made. -/
theorem outcome_decimal {generate : Json → Producer} {fraction : Rule}
    (hfraction : fraction.isFraction = true) (value : Json) (whole places : Int) {scope : Scope}
    {progress reached : Progress} (hledger : reached.ledger = progress.ledger) :
    Outcome generate (some fraction) value scope progress
      ((decimal value whole places).run reached) := by
  obtain ⟨source, ledger⟩ := reached
  obtain rfl : ledger = progress.ledger := hledger
  simp only [decimal, run_bind]
  split
  · exact .drawn _ (Or.inl rfl)
  · exact .kept _ rfl hfraction

/-! ## Executing a rule -/

/-- **Executing a rule has one of the outcomes.**

**Proof sketch.** Without a usable rule the value is generated. A usable rule suits the kind of the
value, which leaves for each rule the one form of value that it looks at; the draws that come first
only change the source. -/
theorem outcome_execute (sampler : Sampler) (generate : Json → Producer) (key : String)
    (value : Json) (scope : Scope) (progress : Progress) :
    Outcome generate (Key.usable? key value) value scope progress
      ((Rule.execute (Key.usable? key value) value (Parts.of sampler generate value) scope).run
        progress) := by
  cases husable : Key.usable? key value with
  | none => exact .part progress.source (.whole value)
  | some rule =>
    have hvalid := (Key.usable?_eq_some_iff.1 husable).2
    obtain ⟨-, -, kind, -, hkind, -, hsuits⟩ := Key.of_usable?_eq_some husable
    simp only [execute, hvalid, if_true]
    -- In each case the kind of the value gives its form, and what is left is to compute the run.
    cases rule with
    | stringRange min max =>
      obtain ⟨text, rfl⟩ := Json.exists_eq_str (hsuits ▸ hkind)
      exact .repeated _ _ rfl
    | stringCount count =>
      obtain ⟨text, rfl⟩ := Json.exists_eq_str (hsuits ▸ hkind)
      exact .repeated count progress.source rfl
    | numberIncrement step => exact .counted rfl
    | numberRange min max => exact .drawn _ (Or.inl rfl)
    | floatRange min max minPlaces maxPlaces =>
      simp only [apply, run_bind]
      exact outcome_decimal rfl value _ _ rfl
    | floatCount count minPlaces maxPlaces =>
      simp only [apply, run_bind]
      exact outcome_decimal rfl value _ _ rfl
    | floatRangeFixed min max places =>
      simp only [apply, run_bind]
      exact outcome_decimal rfl value _ _ rfl
    | floatFixed count places => exact outcome_decimal rfl value count places rfl
    | booleanRandom => exact .drawn _ (Or.inr rfl)
    | booleanWeighted min max => exact .drawn _ (Or.inr rfl)
    | objectCount count =>
      obtain ⟨members, rfl⟩ := Json.exists_eq_obj (hsuits ▸ hkind)
      exact .part _ (.members (Parts.select_sublist _ _).subset)
    | objectRange min max =>
      obtain ⟨members, rfl⟩ := Json.exists_eq_obj (hsuits ▸ hkind)
      exact .part _ (.members (Parts.select_sublist _ _).subset)
    | arrayPickOne =>
      obtain ⟨items, rfl⟩ := Json.exists_eq_arr (hsuits ▸ hkind)
      cases items with
      | nil => exact .empty progress.source rfl
      | cons first rest =>
        obtain ⟨item, hitem, source, h⟩ :=
          run_pickItem generate (List.cons_ne_nil first rest) scope progress
        simp only [apply, pickFrom, Parts.of]
        rw [h]
        exact .part source (.item hitem)
    | arrayPickSequential step =>
      obtain ⟨items, rfl⟩ := Json.exists_eq_arr (hsuits ▸ hkind)
      cases items with
      | nil => exact .empty progress.source rfl
      | cons first rest =>
        obtain ⟨item, hitem, h⟩ :=
          run_pickInTurn generate (List.cons_ne_nil first rest) step scope progress
        simp only [apply, pickFrom, Parts.of]
        rw [h]
        exact .turn rfl (List.mem_of_getElem? hitem) rfl
    | arrayRepeatRange min max =>
      obtain ⟨items, rfl⟩ := Json.exists_eq_arr (hsuits ▸ hkind)
      cases items with
      | nil => exact .empty _ rfl
      | cons first rest => exact .picks _ _ rfl (List.cons_ne_nil first rest)
    | arrayRepeatCount count =>
      obtain ⟨items, rfl⟩ := Json.exists_eq_arr (hsuits ▸ hkind)
      cases items with
      | nil => exact .empty progress.source rfl
      | cons first rest => exact .picks _ progress.source rfl (List.cons_ne_nil first rest)

end Rule

/-! ## The values of members -/

/-- The value of a member is what its usable rule, or none, makes of it in the place of its name. -/
theorem Engine.produceEntry_entry (engine : Engine) (member : String × Json) (scope : Scope) :
    produceEntry (engine.entry member) scope =
      Rule.execute (Key.usable? member.1 member.2) member.2
        (Parts.of Draw.positions engine.generateIn member.2) (scope.child (Key.name member.1)) := by
  obtain ⟨key, value⟩ := member
  simp only [produceEntry, entry, parts_eq_of, Key.usable?, Key.rule?_read, Key.name_read]
  cases hkind : value.kind? with
  | none =>
    cases value <;> first | rfl | cases hkind
  | some kind =>
    simp only [Option.bind_some]
    cases Key.rule? key kind with
    | none => rfl
    | some rule => cases hvalid : rule.isValid <;> simp [Rule.execute, Option.filter, hvalid]

/-- A key without a rule generates its value in the place that the whole key names. -/
theorem Engine.produceEntry_of_split? (engine : Engine) {member : String × Json}
    (h : Key.split? member.1 = none) (scope : Scope) :
    produceEntry (engine.entry member) scope =
      engine.generateIn member.2 (scope.child member.1) := by
  rw [produceEntry_entry, Key.usable?_eq_none h, Key.name_eq_self h]
  rfl

/-- A member is generated with one of the outcomes of its usable rule, or of none. -/
theorem Engine.exists_outcome (engine : Engine) (member : String × Json) (scope : Scope)
    (start : Progress) :
    ∃ finish, (produceEntry (engine.entry member) scope).run start = finish ∧
      Rule.Outcome engine.generateIn (Key.usable? member.1 member.2) member.2
        (scope.child (Key.name member.1)) start finish := by
  refine ⟨_, rfl, ?_⟩
  rw [produceEntry_entry]
  exact Rule.outcome_execute Draw.positions engine.generateIn member.1 member.2 _ start

end Specimen
