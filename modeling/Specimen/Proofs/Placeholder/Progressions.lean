import Specimen.Placeholder.Builtin
import Specimen.Proofs.Random.Draws

set_option autoImplicit false

/-!
# The placeholder for progressions

Before it makes a progression, the placeholder compares a quotient with the limit. The quotient cuts
towards zero, and its dividend need not be in the range of integers. For a positive step the
quotient reaches the limit exactly when the progression has more terms than that, so what the
placeholder refuses are the progressions that are too long, and no others.

## Main definitions

* `Specimen.Builtin.ProgressionArguments` — the arguments for a progression.

## Main results

* `Specimen.Builtin.progressionOf_eq` — the quotient decides about the number of terms.
* `Specimen.Builtin.call_range_progression` — the terms of a progression, and when the placeholder
  gives them.
-/

namespace Specimen.Builtin

/-- The arguments of the placeholder for progressions; the step is one by default. -/
inductive ProgressionArguments : List Json → Int → Int → Int → Prop where
  /-- A start and a stop. -/
  | byOne (start stop : Int) :
    ProgressionArguments [.ofInt start, .ofInt stop] start stop 1
  /-- A start, a stop and a step. -/
  | byStep (start stop step : Int) :
    ProgressionArguments [.ofInt start, .ofInt stop, .ofInt step] start stop step

/-- A quotient that cuts towards zero is at least a positive number exactly when the product with
this number is not greater than the dividend: for a negative dividend neither is the case. -/
theorem le_tdiv_iff {limit span step : Int} (hlimit : 0 < limit) (hstep : 0 < step) :
    limit ≤ span.tdiv step ↔ limit * step ≤ span := by
  rcases Int.le_total 0 span with hspan | hspan
  · rw [Int.tdiv_eq_ediv_of_nonneg hspan, Int.le_ediv_iff_mul_le hstep]
  · have hquotient : 0 ≤ (-span).tdiv step :=
      Int.tdiv_nonneg (Int.neg_nonneg_of_nonpos hspan) (Int.le_of_lt hstep)
    have hproduct := Int.mul_pos hlimit hstep
    rw [Int.neg_tdiv] at hquotient
    constructor <;> intro h <;> omega

/-- **The quotient decides about the number of terms**: there are too many exactly when the term
behind the last allowed one is not beyond the stop. -/
theorem progressionOf_eq (name : String) {start stop step : Int} (hstart : Integer.InRange start)
    (hstop : Integer.InRange stop) (hstep : 0 < step) :
    progressionOf name start stop step =
      if (progression start stop step).length ≤ 10000 then
        .ok (.arr ((progression start stop step).map Json.ofInt))
      else fault name .tooManyElements := by
  have hlimit : maxRepeat ≤ (stop - start).tdiv step ↔
      Reaches stop step (start + (10000 : Nat) * step) := by
    rw [le_tdiv_iff (by decide) hstep, maxRepeat, Reaches]
    omega
  unfold progressionOf
  simp only [length_progression_le_iff hstart hstop, hlimit, ite_not]

section Call

variable {start stop step : Int} (hstart : Integer.InRange start) (hstop : Integer.InRange stop)

include hstart hstop

/-- A call is answered without random words: a step that is not positive is refused, and then the
quotient decides. -/
theorem call_range (hstep : Integer.InRange step) {arguments : List Json}
    (h : ProgressionArguments arguments start stop step) (setting : Setting) :
    Registry.default.call setting "range" arguments =
      ofExcept (if step ≤ 0 then fault "range" .stepNotPositive
        else progressionOf "range" start stop step) := by
  cases h with
  | byOne =>
    rw [Registry.call_of_filter (two "range" intArgument intArgument _) rfl]
    simp only [two]
    rw [intArgument_eq_ok rfl hstart, intArgument_eq_ok rfl hstop]
    rfl
  | byStep =>
    rw [Registry.call_of_filter ⟨"range", .exactly 3, _⟩ rfl]
    dsimp only
    rw [intArgument_eq_ok rfl hstart, intArgument_eq_ok rfl hstop, intArgument_eq_ok rfl hstep]
    rfl

/-- **Progressions are exact, and those of the placeholder are bounded.** The terms are the start
and what follows it step by step, as long as it is not beyond the stop, and all of them are in
range. The placeholder gives these terms when the step is positive and there are at most ten
thousand, and else fails over its arguments.

**Proof sketch.** The loop stops at the first term that is beyond the stop or out of range; a term
behind one that is out of range is beyond the stop. For a positive step the quotient is at least ten
thousand exactly when the term of this number is not beyond the stop. -/
theorem call_range_progression (hstep : Integer.InRange step) :
    ((∀ n : Nat, (progression start stop step)[n]? =
        if Reaches stop step (start + n * step) then some (start + n * step) else none) ∧
      ∀ term ∈ progression start stop step, Integer.InRange term) ∧
      ∀ arguments : List Json, ProgressionArguments arguments start stop step →
        ∀ (setting : Setting) (source : Source),
          (0 < step ∧ (progression start stop step).length ≤ 10000 →
            (Registry.default.call setting "range" arguments).run.run source =
              (.ok (.arr ((progression start stop step).map Json.ofInt)), source)) ∧
          (¬(0 < step ∧ (progression start stop step).length ≤ 10000) →
            ∃ fault, (Registry.default.call setting "range" arguments).run.run source =
              (.error (.argument "range" fault), source)) := by
  refine ⟨⟨getElem?_progression hstart hstop, inRange_of_mem_progression hstart hstop⟩, ?_⟩
  intro arguments harguments setting source
  rw [call_range hstart hstop hstep harguments]
  constructor
  · rintro ⟨hpositive, hlength⟩
    rw [if_neg (Int.not_le.2 hpositive), progressionOf_eq "range" hstart hstop hpositive,
      if_pos hlength]
    rfl
  · intro hrefused
    by_cases hpositive : 0 < step
    · have hlength : ¬(progression start stop step).length ≤ 10000 := by
        intro hle
        exact hrefused ⟨hpositive, hle⟩
      rw [if_neg (Int.not_le.2 hpositive), progressionOf_eq "range" hstart hstop hpositive,
        if_neg hlength]
      exact ⟨.tooManyElements, rfl⟩
    · rw [if_pos (Int.not_lt.1 hpositive)]
      exact ⟨.stepNotPositive, rfl⟩

end Call

/-- From one end of the range to the other with the greatest step: the sum behind the third term is
out of range. -/
theorem call_range_progression_ends :
    (Integer.InRange Integer.least ∧ Integer.InRange Integer.greatest) ∧
      progression Integer.least Integer.greatest Integer.greatest = [Integer.least, -1,
        Integer.greatest - 1] ∧
      ∀ (setting : Setting) (source : Source),
        (Registry.default.call setting "range" [.ofInt Integer.least, .ofInt Integer.greatest,
          .ofInt Integer.greatest]).run.run source =
          (.ok (.arr [.ofInt Integer.least, .ofInt (-1), .ofInt (Integer.greatest - 1)]),
            source) := by
  have hleast : Integer.InRange Integer.least := by decide
  have hgreatest : Integer.InRange Integer.greatest := by decide
  have hterms : progression Integer.least Integer.greatest Integer.greatest =
      [Integer.least, -1, Integer.greatest - 1] := by
    simp [progression, Reaches, Integer.least, Integer.greatest, Integer.check?, Integer.InRange]
  refine ⟨⟨hleast, hgreatest⟩, hterms, fun setting source => ?_⟩
  have hcall := (call_range_progression hleast hgreatest hgreatest).2 _
    (.byStep Integer.least Integer.greatest Integer.greatest) setting source
  rw [hterms] at hcall
  exact hcall.1 ⟨by decide, by decide⟩

end Specimen.Builtin
