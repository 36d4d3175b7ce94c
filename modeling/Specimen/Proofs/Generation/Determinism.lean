import Mathlib
import Specimen.Command.Run
import Specimen.Proofs.Generation.Agreement

set_option autoImplicit false

/-!
# Templates that leave nothing to chance

A rule does not always draw: an exact count, a step, bounds that are equal and picks from an array
of at most one item leave nothing to choose. Where all usable rules of a template are of this sort,
and its texts have neither patterns nor tokens, generation takes no random word and asks nothing of
the engine. Since the counters of a run begin anew, such a template has one value, which every
engine generates every time.

## Main definitions

* `Specimen.Rule.IsCertain`, `Specimen.Json.IsCertain` — rules, and templates, that leave nothing to
  chance.
* `Specimen.Gen.DrawsNothing` — a step that neither moves the source nor depends on it.

## Main results

* `Specimen.Engine.drawsNothing_generateIn` — a run of such a template draws nothing.
* `Specimen.Engine.generateIn_eq_of_isCertain` — all engines mean the same by it.
* `Specimen.Engine.run_generate_certain` — every engine generates the same value every time.
-/

namespace Specimen

/-! ## Rules and templates -/

/-- An array of at most one item. -/
def Json.IsShort : Json → Prop
  | .arr items => items.length ≤ 1
  | _ => False

instance : DecidablePred Json.IsShort
  | .arr items => inferInstanceAs (Decidable (items.length ≤ 1))
  | .null | .bool _ | .num _ | .str _ | .obj _ => isFalse id

/-- A rule that leaves nothing to chance on a value: an exact count of a text, bounds that are
equal, a step, and picks from an array of at most one item. -/
def Rule.IsCertain (value : Json) : Rule → Prop
  | .stringCount _ => True
  | .stringRange min max => min = max
  | .numberIncrement _ => True
  | .numberRange min max => min = max
  | .arrayPickSequential _ => True
  | .arrayPickOne => value.IsShort
  | .arrayRepeatCount _ => value.IsShort
  | .arrayRepeatRange min max => min = max ∧ value.IsShort
  | _ => False

instance (value : Json) : DecidablePred (Rule.IsCertain value)
  | .stringCount _ | .numberIncrement _ | .arrayPickSequential _ => isTrue trivial
  | .stringRange min max | .numberRange min max => inferInstanceAs (Decidable (min = max))
  | .arrayPickOne | .arrayRepeatCount _ => inferInstanceAs (Decidable value.IsShort)
  | .arrayRepeatRange min max => inferInstanceAs (Decidable (min = max ∧ value.IsShort))
  | .floatRange _ _ _ _ | .floatCount _ _ _ | .floatRangeFixed _ _ _ | .floatFixed _ _
  | .booleanRandom | .booleanWeighted _ _ | .objectCount _ | .objectRange _ _ => isFalse id

namespace Json

/-- A text without at sign and slash, or an object whose members have no usable rules but those that
leave nothing to chance. -/
def IsCertain : Json → Prop
  | .str text => '@' ∉ text.toList ∧ '/' ∉ text.toList
  | .obj members => ∀ member ∈ members, ∀ rule ∈ Key.usable? member.1 member.2,
      rule.IsCertain member.2
  | _ => True

instance : DecidablePred IsCertain
  | .str text => inferInstanceAs (Decidable ('@' ∉ text.toList ∧ '/' ∉ text.toList))
  | .obj members => inferInstanceAs (Decidable (∀ member ∈ members,
      ∀ rule ∈ Key.usable? member.1 member.2, rule.IsCertain member.2))
  | .null | .bool _ | .num _ | .arr _ => isTrue trivial

theorem selective_isCertain : Selective IsCertain :=
  fun _ _ hsub h member hm => h member (hsub member hm)

end Json

/-! ## Draws without words -/

namespace Draw

/-- A list of at most one element has one position. -/
theorem index_eq_pure {length : Nat} (h : length ≤ 1) : index length = pure 0 := by
  rw [index, if_pos h]

/-- A step that gives one result and leaves the source gives this result every time. -/
theorem run_many_of_forall_run {α : Type} {step : Draw α} {result : α}
    (h : ∀ source, step.run source = (result, source)) (count : Nat) (source : Source) :
    (many count step).run source = (List.replicate count result, source) := by
  induction count with
  | zero => rfl
  | succ count ih =>
    rw [many, run_bind, h, run_bind, ih]
    rfl

end Draw

/-! ## Steps without draws -/

namespace Gen

/-- A step that neither moves the source of random words nor depends on it. -/
structure DrawsNothing {α : Type} (step : Gen α) : Prop where
  /-- The source is not moved. -/
  keeps : step.Keeps fun start finish => finish.source = start.source
  /-- From states with the same ledger the step goes on alike. -/
  ignores : step.Parallel fun first second => first.ledger = second.ledger

theorem sequential_drawsNothing : Sequential fun _ step => step.DrawsNothing where
  pure result := ⟨fun _ => rfl, (sequential_parallel _).pure result⟩
  bind hstep hnext :=
    ⟨fun start => ((hnext _).keeps _).trans (hstep.keeps start),
      (sequential_parallel _).bind hstep.ignores fun result => (hnext result).ignores⟩

/-- A change of the ledger draws nothing. -/
theorem drawsNothing_update (change : Ledger → Ledger) : (update change).DrawsNothing :=
  ⟨fun _ => rfl, fun _ _ h => ⟨rfl, congrArg change h⟩⟩

/-- A counter is read and moves on without draws. -/
theorem drawsNothing_advance (key : String) (seed step : Int) :
    (advance key seed step).DrawsNothing := by
  refine ⟨fun _ => rfl, fun first second h => ⟨?_, ?_⟩⟩
  · exact congrArg (fun ledger => (ledger.advance key seed step).1) h
  · exact congrArg (fun ledger => (ledger.advance key seed step).2) h

/-- **A rule that leaves nothing to chance has the property** when the parts of the value have it,
and the counters.

**Proof sketch.** Rule by rule. Equal bounds are drawn without random words, and so is a position
when there is at most one item; the other rules draw nothing. -/
theorem Sequential.apply_of_isCertain {property : ∀ α : Type, Gen α → Prop}
    (hseq : Sequential property) {sampler : Sampler} {generate : Json → Producer} {rule : Rule}
    {value : Json} {scope : Scope} (hrule : rule.IsCertain value)
    (hparts : ∀ part, Json.IsPart part value → property Json (generate part scope))
    (hadvance : ∀ key seed step, property Int (advance key seed step)) :
    property Json (rule.apply value (Parts.of sampler generate value) scope) := by
  have hitems : ∀ item ∈ (Parts.of sampler generate value).items, property Json (item scope) :=
    Parts.forall_mem_items hparts
  have hpick : value.IsShort →
      property Json (Rule.pickItem (Parts.of sampler generate value).items scope) := by
    intro hshort
    refine hseq.pickItem ?_ hitems
    cases value with
    | arr items =>
      have hlength : (Parts.of sampler generate (.arr items)).items.length ≤ 1 := by
        rw [Parts.of, List.length_map]
        exact hshort
      rw [Draw.index_eq_pure hlength]
      exact hseq.pure 0
    | _ => cases hshort
  have hinteger : ∀ n, property Int (draw (Draw.integer n n)) := by
    intro n
    rw [Draw.integer_self]
    exact hseq.pure n
  cases rule with
  | stringRange min max =>
    obtain rfl : min = max := hrule
    exact hseq.map _ (hinteger min)
  | stringCount count => exact hseq.pure _
  | numberIncrement step => exact hseq.map _ (hadvance _ _ _)
  | numberRange min max =>
    obtain rfl : min = max := hrule
    exact hseq.map _ (hinteger min)
  | arrayPickOne => exact hseq.pickFrom (hpick hrule)
  | arrayPickSequential step => exact hseq.pickFrom (hseq.pickInTurn (hadvance _ _ _) hitems)
  | arrayRepeatRange min max =>
    obtain ⟨rfl, hshort⟩ : min = max ∧ value.IsShort := hrule
    exact hseq.bind (hinteger min) fun count => hseq.repeatPicks (hpick hshort) count
  | arrayRepeatCount count => exact hseq.repeatPicks (hpick hrule) count
  | _ => exact hrule.elim

end Gen

/-! ## Runs -/

namespace Engine

/-- **A run draws nothing** when its template leaves nothing to chance, by induction over values and
their parts.

**Proof sketch.** A text without at signs and slashes is copied. The rules of members are certain on
their values, and whatever they generate are parts, which draw nothing by induction. -/
theorem drawsNothing_generateIn (engine : Engine) {template : Json}
    (h : template.Everywhere Json.IsCertain) (scope : Scope) :
    (engine.generateIn template scope).DrawsNothing := by
  have hseq := Gen.sequential_drawsNothing
  induction h using Json.Everywhere.parts_induction Json.selective_isCertain
    generalizing scope with
  | null => exact hseq.pure _
  | bool => exact hseq.pure _
  | num => exact hseq.pure _
  | str text hnode =>
    obtain ⟨hat, hslash⟩ : '@' ∉ text.toList ∧ '/' ∉ text.toList := hnode.top
    have hpure : engine.produceText text scope = pure (.str text) :=
      funext (engine.run_produceText_of_not_mem hat hslash scope)
    rw [generateIn_str, hpure]
    exact hseq.pure _
  | arr items _ ih =>
    rw [generateIn_arr]
    refine hseq.map _ (hseq.produceItemsFrom fun producer hproducer => ?_)
    obtain ⟨item, hitem, rfl⟩ := List.mem_map.1 hproducer
    exact ih item hitem scope
  | obj members hnode ih =>
    rw [generateIn_obj]
    refine hseq.map _ (hseq.produceEntriesFrom (fun entry hentry inner _ => ?_)
      (fun _ _ _ _ _ => Gen.drawsNothing_update _) rfl [])
    obtain ⟨member, hmember, rfl⟩ := List.mem_map.1 hentry
    rw [produceEntry_entry]
    cases husable : Key.usable? member.1 member.2 with
    | none => exact ih member hmember _ (.whole member.2) _
    | some rule =>
      have hvalid := (Key.usable?_eq_some_iff.1 husable).2
      simp only [Rule.execute, hvalid, if_true]
      exact hseq.apply_of_isCertain (hnode.top member hmember rule husable)
        (fun part hpart => ih member hmember part hpart _) Gen.drawsNothing_advance

/-- **All engines mean the same** by a template that leaves nothing to chance: its texts have no at
signs and slashes. -/
theorem generateIn_eq_of_isCertain (first second : Engine) {template : Json}
    (h : template.Everywhere Json.IsCertain) :
    first.generateIn template = second.generateIn template := by
  refine generateIn_congr (fun text htext => ?_) h
  obtain ⟨hat, hslash⟩ : '@' ∉ text.toList ∧ '/' ∉ text.toList := htext
  funext scope progress
  exact (first.run_produceText_of_not_mem hat hslash scope progress).trans
    (second.run_produceText_of_not_mem hat hslash scope progress).symm

/-- **A template that leaves nothing to chance has one value.** Every engine generates it from every
source and leaves the source as it was; generated many times in a row it is the same each time, and
so are the elements of the output of a request that asks for many.

**Proof sketch.** The run does not depend on the engine, and it begins with an empty ledger, which
is all that it depends on. A step that gives one result and leaves the source can be repeated. -/
theorem run_generate_certain {template : Json} (h : template.Everywhere Json.IsCertain) :
    ∃ value, ∀ (engine : Engine) (source : Source),
      (engine.generate template).run source = (value, source) ∧
      (∀ count, (many count (engine.generate template)).run source =
        (List.replicate count value, source)) ∧
      ∀ request : Command.Generation, (request.draw engine template).run source =
        (if request.count = 1 then value else .arr (List.replicate request.count value),
          source) := by
  let base := standard ⟨.enUS, 0⟩
  obtain ⟨value, hvalue⟩ : ∃ value, value =
    ((base.generateIn template Scope.root).run ⟨default, Ledger.empty⟩).1 := ⟨_, rfl⟩
  have hgenerate : ∀ (engine : Engine) (source : Source),
      (engine.generate template).run source = (value, source) := by
    intro engine source
    have hnothing := engine.drawsNothing_generateIn h Scope.root
    have hsource := hnothing.keeps ⟨source, Ledger.empty⟩
    have hresult := (hnothing.ignores ⟨source, Ledger.empty⟩ ⟨default, Ledger.empty⟩ rfl).1
    rw [generateIn_eq_of_isCertain base engine h] at hvalue
    exact Prod.ext (hresult.trans hvalue.symm) hsource
  refine ⟨value, fun engine source => ⟨hgenerate engine source,
    fun count => Draw.run_many_of_forall_run (hgenerate engine) count source, fun request => ?_⟩⟩
  unfold Command.Generation.draw
  split
  · exact hgenerate engine source
  · rw [run_map, Draw.run_many_of_forall_run (hgenerate engine) request.count source]

/-- Numbers of one counter in the items of a list, bounds that are equal, a turn, a repeated text,
and a rule with a fault. -/
theorem run_generate_certain_list :
    (Json.obj [("list|2", .arr [.obj [("id|+3", .num (.int 7)), ("name|2-2", .str "ab")]]),
        ("turn|+1", .arr [.null, .bool true]), ("one|5-5", .num (.int 0)),
        ("none|4-1", .str "c")]).Everywhere Json.IsCertain ∧
      ∀ (engine : Engine) (source : Source),
        (engine.generate (.obj [
          ("list|2", .arr [.obj [("id|+3", .num (.int 7)), ("name|2-2", .str "ab")]]),
          ("turn|+1", .arr [.null, .bool true]), ("one|5-5", .num (.int 0)),
          ("none|4-1", .str "c")])).run source =
        (.obj [("list", .arr [.obj [("id", .num (.int 7)), ("name", .str "abab")],
            .obj [("id", .num (.int 10)), ("name", .str "abab")]]),
          ("turn", .null), ("one", .num (.int 5)), ("none", .str "c")], source) := by
  have hcertain : (Json.obj [
      ("list|2", .arr [.obj [("id|+3", .num (.int 7)), ("name|2-2", .str "ab")]]),
      ("turn|+1", .arr [.null, .bool true]), ("one|5-5", .num (.int 0)),
      ("none|4-1", .str "c")]).Everywhere Json.IsCertain := by decide
  obtain ⟨value, hvalue⟩ := run_generate_certain hcertain
  have hresult : (((standard ⟨.enUS, 0⟩).generate (.obj [
      ("list|2", .arr [.obj [("id|+3", .num (.int 7)), ("name|2-2", .str "ab")]]),
      ("turn|+1", .arr [.null, .bool true]), ("one|5-5", .num (.int 0)),
      ("none|4-1", .str "c")])).run default).1 =
      .obj [("list", .arr [.obj [("id", .num (.int 7)), ("name", .str "abab")],
          .obj [("id", .num (.int 10)), ("name", .str "abab")]]),
        ("turn", .null), ("one", .num (.int 5)), ("none", .str "c")] := by cbv
  rw [(hvalue (standard ⟨.enUS, 0⟩) default).1] at hresult
  exact ⟨hcertain, fun engine source => hresult ▸ (hvalue engine source).1⟩

end Engine

end Specimen
