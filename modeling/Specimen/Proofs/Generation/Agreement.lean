import Specimen.Proofs.Generation.Composition
import Specimen.Proofs.Text.Tokens

set_option autoImplicit false

/-!
# Runs from states that agree

What a run does not look at cannot change what it does. Two states agree when they have the same
source and show the same under some keys of counters and at some paths of values. Where a template
looks at nothing else, runs from such states give one result, and they end in states that agree.

## Main definitions

* `Specimen.Gen.Parallel` — runs from related states give one result and end in related states.
* `Specimen.Progress.Agree` — states with the same source, counters and values, as far as these are
  looked at.

## Main results

* `Specimen.Gen.sequential_parallel` — runs stay parallel from step to step.
* `Specimen.Gen.parallel_draw`, `Specimen.Gen.parallel_record`, `Specimen.Gen.parallel_advance`,
  `Specimen.Engine.parallel_produceText` — the single steps of generation.
-/

namespace Specimen

/-! ## Parallel runs -/

namespace Gen

/-- Two runs that start in related states give the same result and end in related states. -/
def Parallel (related : Progress → Progress → Prop) {α : Type} (step : Gen α) : Prop :=
  ∀ first second, related first second →
    (step.run first).1 = (step.run second).1 ∧ related (step.run first).2 (step.run second).2

/-- Runs that are parallel in each step are parallel. -/
theorem sequential_parallel (related : Progress → Progress → Prop) :
    Sequential fun _ step => step.Parallel related where
  pure _ _ _ h := ⟨rfl, h⟩
  bind hstep hnext first second h := by
    obtain ⟨hresult, hreached⟩ := hstep first second h
    rw [run_bind, run_bind, hresult]
    exact hnext _ _ _ hreached

end Gen

/-- Two states have the same source, the same counters under some keys, and the same values at some
paths. -/
structure Progress.Agree (counters values : String → Prop) (first second : Progress) : Prop where
  /-- The source is the same. -/
  source : first.source = second.source
  /-- Some counters are the same. -/
  counter : ∀ key, counters key → first.ledger.counter? key = second.ledger.counter? key
  /-- Some values are the same. -/
  value : ∀ path, values path → first.ledger.value? path = second.ledger.value? path

section Agree

variable {counters values : String → Prop}

namespace Gen

/-- Draws look at the source only. -/
theorem parallel_draw {α : Type} (step : Draw α) :
    (draw step).Parallel (Progress.Agree counters values) := by
  intro first second h
  have hresult : (step.run first.source).1 = (step.run second.source).1 := by rw [h.source]
  have hsource : (step.run first.source).2 = (step.run second.source).2 := by rw [h.source]
  exact ⟨hresult, hsource, h.counter, h.value⟩

/-- A record looks at nothing, and leaves the same value at its path. -/
theorem parallel_record (path : String) (value : Json) :
    (update fun ledger => ledger.record path value).Parallel (Progress.Agree counters values) := by
  refine fun first second h => ⟨rfl, h.source, h.counter, fun other hother => ?_⟩
  have hfirst := first.ledger.value?_record path other value
  have hsecond := second.ledger.value?_record path other value
  rw [h.value other hother, ← hsecond] at hfirst
  exact hfirst

/-- A counter is read, and moved on, where the states agree. -/
theorem parallel_advance {key : String} (hkey : counters key) (seed step : Int) :
    (advance key seed step).Parallel (Progress.Agree counters values) := by
  intro first second h
  have hcurrent := h.counter key hkey
  refine ⟨congrArg (·.getD seed) hcurrent, h.source, fun other hother => ?_, h.value⟩
  have hother := h.counter other hother
  have hfirst := first.ledger.counter?_advance key other seed step
  have hsecond := second.ledger.counter?_advance key other seed step
  rw [hcurrent, hother, ← hsecond] at hfirst
  exact hfirst

end Gen

/-- A text is generated alike when its references, as far as its tokens go, mean the same. -/
theorem Engine.parallel_produceText (engine : Engine) {text : String} {scope : Scope}
    (h : ∀ first second, Progress.Agree counters values first second → ∀ source token,
      Segment.token token ∈ segments ((Pattern.expand text.toList).run source).1 →
        scope.find? first.ledger (String.ofList token.name) =
          scope.find? second.ledger (String.ofList token.name)) :
    (engine.produceText text scope).Parallel (Progress.Agree counters values) := by
  intro first second hagree
  have hresolve := engine.resolve_congr (h first second hagree first.source)
  rw [run_produceText, run_produceText, hresolve, hagree.source]
  exact ⟨rfl, rfl, hagree.counter, hagree.value⟩

end Agree

end Specimen
