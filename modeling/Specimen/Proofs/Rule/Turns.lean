import Specimen.Proofs.Rule.Outcome

set_option autoImplicit false

/-!
# Picks in turn

A rule of turns takes the items of an array one after the other, round and round. What it goes by is
a counter of the run: each time it is executed the counter moves on by the step, whatever the array
is, so that arrays may change from one time to the next. Between two executions, and while the item
of one of them is generated, anything else may happen that leaves the counter alone. It may take
random words, keep values, move other counters on, and be done in other scopes.

## Main definitions

* `Specimen.Rule.Turns` — what a run has come to, and the arrays from which it has picked by then.

## Main results

* `Specimen.Rule.Turns.counter` — the counter of the turns.
* `Specimen.Rule.Turns.walks` — which item comes next.
-/

namespace Specimen

namespace Rule

/-! ## Executing a rule of turns -/

/-- A step other than zero makes a rule without fault. -/
theorem execute_turn {step : Int} (hstep : step ≠ 0) (value : Json) (parts : Parts)
    (scope : Scope) :
    execute (some (.arrayPickSequential step)) value parts scope =
      pickFrom value (pickInTurn parts.items step) scope := by
  have hvalid : isValid (.arrayPickSequential step) = true := isValid_iff.2 hstep
  rw [execute, if_pos hvalid]
  rfl

/-- With items to pick from, the one whose turn it is by the counter is generated after the counter
has moved on. -/
theorem handsOver_turn (sampler : Sampler) {step : Int} (hstep : step ≠ 0) {items : List Json}
    (hitems : items ≠ []) (scope : Scope) (now : Progress) :
    ∃ item, items[((now.ledger.counter? (scope.path ++ positionSuffix)).getD 0 %
        items.length).toNat]? = some item ∧
      HandsOver sampler (.arrayPickSequential step) (.arr items) scope now item
        { now with ledger := (now.ledger.advance (scope.path ++ positionSuffix) 0 step).2 } := by
  have hturn := turn_lt (List.length_pos_iff.2 hitems)
    ((now.ledger.counter? (scope.path ++ positionSuffix)).getD 0)
  refine ⟨_, List.getElem?_eq_getElem hturn, fun generate => ?_⟩
  obtain ⟨item, hitem, hrun⟩ := run_pickInTurn generate hitems step scope now
  obtain ⟨first, rest, rfl⟩ := List.exists_cons_of_ne_nil hitems
  obtain ⟨_, rfl⟩ := List.getElem?_eq_some_iff.1 hitem
  rw [execute_turn hstep]
  exact hrun

/-- With nothing to pick from the value stays, and so does the state. -/
theorem run_execute_turn_of_no_items {step : Int} (hstep : step ≠ 0) {value : Json}
    (hvalue : ∀ items, value = .arr items → items = []) (sampler : Sampler)
    (generate : Json → Producer) (scope : Scope) (now : Progress) :
    (execute (some (.arrayPickSequential step)) value (Parts.of sampler generate value)
      scope).run now = (value, now) := by
  rw [execute_turn hstep]
  cases value with
  | arr items =>
    obtain rfl := hvalue items rfl
    rfl
  | null | bool _ | num _ | str _ | obj _ => rfl

/-! ## Runs -/

/-- What a run has come to: the arrays from which the rule of turns has picked at a place so far, in
order, and the state.

An execution goes on with the generation of its item; what that does belongs to the run. -/
inductive Turns (sampler : Sampler) (path : String) (step : Int) (start : Progress) :
    List (List Json) → Progress → Prop
  /-- The run begins. -/
  | start : Turns sampler path step start [] start
  /-- Something else is done that leaves the counter of the turns alone. -/
  | other {arrays : List (List Json)} {now later : Progress} :
    Turns sampler path step start arrays now →
    later.ledger.counter? (path ++ positionSuffix) =
      now.ledger.counter? (path ++ positionSuffix) →
    Turns sampler path step start arrays later
  /-- The rule is executed on an array with items. -/
  | pick {arrays : List (List Json)} {now later : Progress} {scope : Scope} {items : List Json}
    {item : Json} : Turns sampler path step start arrays now → scope.path = path → items ≠ [] →
    HandsOver sampler (.arrayPickSequential step) (.arr items) scope now item later →
    Turns sampler path step start (arrays ++ [items]) later

variable {sampler : Sampler} {path : String} {step : Int} {start now : Progress}
  {arrays : List (List Json)}

/-- The counter of the turns has moved on once for each array.

**Proof sketch.** By induction on the run. What an execution does to the state before it generates
its item is known, because there is only one state to generate it from. -/
theorem Turns.counter (hrun : Turns sampler path step start arrays now) (hstep : step ≠ 0)
    (hstart : start.ledger.counter? (path ++ positionSuffix) = none) :
    (now.ledger.counter? (path ++ positionSuffix)).getD 0 =
      Integer.saturate (arrays.length * step) := by
  induction hrun with
  | start =>
    rw [hstart, List.length_nil, Int.natCast_zero, Int.zero_mul]
    rfl
  | other _ hother ih => rw [hother, ih]
  | @pick arrays now later scope items item _ hscope hitems hover ih =>
    subst hscope
    obtain ⟨other, -, hother⟩ := handsOver_turn sampler hstep hitems scope now
    obtain ⟨-, rfl⟩ := hover.unique hother
    have hzero : Integer.InRange 0 := by decide
    have hnext := Integer.saturate_add_steps hzero arrays.length step
    simp only [Int.zero_add] at hnext
    rw [Ledger.counter?_advance, if_pos rfl, Option.getD_some, ih, List.length_append,
      List.length_singleton, hnext]

/-- **Picks in turn walk round the arrays.** In a run that has picked from so many arrays at a place
with nothing counted there at first, the next pick from an array with items is of the item at the
position that many steps reach, counted round the array forwards or backwards. It takes no random
word, and moves the counter of the turns only. Without items the value stays as it is, and the walk
does not go on.

**Proof sketch.** The counter of the turns has moved on once for each array, and within the range it
has not stopped at an end. The remainder by the length of an array is one of its positions. -/
theorem Turns.walks (hrun : Turns sampler path step start arrays now) (hstep : step ≠ 0)
    (hstart : start.ledger.counter? (path ++ positionSuffix) = none)
    (hrange : Integer.InRange (arrays.length * step)) {scope : Scope} (hscope : scope.path = path) :
    (∀ items : List Json, items ≠ [] → ∃ item later,
      items[((arrays.length * step) % items.length).toNat]? = some item ∧
      HandsOver sampler (.arrayPickSequential step) (.arr items) scope now item later ∧
      later = { now with ledger := (now.ledger.advance (path ++ positionSuffix) 0 step).2 } ∧
      Turns sampler path step start (arrays ++ [items]) later) ∧
    ∀ value : Json, (∀ items, value = .arr items → items = []) → ∀ generate : Json → Producer,
      (execute (some (.arrayPickSequential step)) value (Parts.of sampler generate value)
        scope).run now = (value, now) := by
  have hcounter := hrun.counter hstep hstart
  rw [Integer.saturate_eq_self hrange] at hcounter
  refine ⟨fun items hitems => ?_, fun value hvalue generate =>
    run_execute_turn_of_no_items hstep hvalue sampler generate scope now⟩
  obtain ⟨item, hitem, hover⟩ := handsOver_turn sampler hstep hitems scope now
  subst hscope
  rw [hcounter] at hitem
  exact ⟨item, _, hitem, hover, rfl, hrun.pick rfl hitems hover⟩

/-- Two steps backwards at a time: after `a` of three letters and `x` of two, with random words
taken and a number counted at the same place between them, comes `c` of the three letters. -/
theorem Turns.walks_backwards :
    ∃ now later, Turns Draw.positions "letters" (-2) ⟨default, Ledger.empty⟩
        [[.str "a", .str "b", .str "c"], [.str "x", .str "y"]] now ∧
      (-2 : Int) ≠ 0 ∧ Ledger.empty.counter? ("letters" ++ positionSuffix) = none ∧
      Integer.InRange ((2 : Nat) * (-2)) ∧
      HandsOver Draw.positions (.arrayPickSequential (-2)) (.arr [.str "a", .str "b", .str "c"])
        ⟨"letters", []⟩ now (.str "c") later ∧
      later.source = now.source ∧
      ∀ generate : Json → Producer, (execute (some (.arrayPickSequential (-2))) (.arr [])
        (Parts.of Draw.positions generate (.arr [])) ⟨"letters", []⟩).run now = (.arr [], now) := by
  have hstep : (-2 : Int) ≠ 0 := by decide
  have hstart : Ledger.empty.counter? ("letters" ++ positionSuffix) = none := rfl
  have hscope : (⟨"letters", []⟩ : Scope).path = "letters" := rfl
  have hbegin : Turns Draw.positions "letters" (-2) ⟨default, Ledger.empty⟩ []
      ⟨default, Ledger.empty⟩ := .start
  obtain ⟨first, -⟩ := hbegin.walks hstep hstart (by decide) hscope
  obtain ⟨-, one, -, -, -, hone⟩ := first [.str "a", .str "b", .str "c"] (List.cons_ne_nil _ _)
  have hother : Turns Draw.positions "letters" (-2) ⟨default, Ledger.empty⟩
      [[.str "a", .str "b", .str "c"]]
      ⟨((many 3 Draw.word32).run one.source).2, (one.ledger.advance "letters" 5 1).2⟩ :=
    hone.other ((one.ledger.counter?_advance _ _ _ _).trans (if_neg (by decide)))
  obtain ⟨second, -⟩ := hother.walks hstep hstart (by decide) hscope
  obtain ⟨-, now, -, -, -, hnow⟩ := second [.str "x", .str "y"] (List.cons_ne_nil _ _)
  obtain ⟨third, hnone⟩ := hnow.walks hstep hstart (by decide) hscope
  obtain ⟨item, later, hitem, hover, hlater, -⟩ :=
    third [.str "a", .str "b", .str "c"] (List.cons_ne_nil _ _)
  obtain rfl : Json.str "c" = item := Option.some.inj hitem
  refine ⟨now, later, hnow, hstep, hstart, by decide, hover, hlater ▸ rfl, ?_⟩
  exact hnone (.arr []) fun items hitems => (Json.arr.inj hitems).symm

end Rule

end Specimen
