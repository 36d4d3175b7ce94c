import Specimen.Integer

set_option autoImplicit false

/-!
# Arithmetic progressions

A progression goes on from its start by a step as long as it does not go beyond the stop, up or down
as the step says; a step of zero goes nowhere. Where the next term would leave the range of integers
the progression ends as well.

## Main definitions

* `Specimen.Reaches` — a term that is not beyond the stop.
* `Specimen.progression` — the terms from a start up to or down to a stop.

## Main results

* `Specimen.getElem?_progression` — what the terms are.
* `Specimen.inRange_of_mem_progression` — all terms are in range.
-/

namespace Specimen

/-- A term is not beyond the stop in the direction of the step. -/
def Reaches (stop step term : Int) : Prop := 0 < step ∧ term ≤ stop ∨ step < 0 ∧ stop ≤ term

instance (stop step term : Int) : Decidable (Reaches stop step term) :=
  inferInstanceAs (Decidable (_ ∨ _))

/-- The terms `start`, `start + step`, ... that are not beyond `stop`. -/
def progression (start stop step : Int) : List Int :=
  if Reaches stop step start then
    match _hcheck : Integer.check? (start + step) with
    | some next => start :: progression next stop step
    | none => [start]
  else []
-- Each term is nearer to the stop than the one before it.
termination_by (if 0 < step then stop + 1 - start else start + 1 - stop).toNat
decreasing_by
  rename_i hreaches
  obtain ⟨-, rfl⟩ := Integer.check?_eq_some_iff.1 _hcheck
  unfold Reaches at hreaches
  split <;> omega

/-! ## Terms -/

section Terms

variable {stop step term : Int}

/-- Behind a term that is beyond the stop there are only others. -/
theorem not_reaches_add_mul (h : ¬Reaches stop step term) (n : Nat) :
    ¬Reaches stop step (term + n * step) := by
  unfold Reaches at h ⊢
  rintro (⟨hstep, hle⟩ | ⟨hstep, hle⟩)
  · have hmul := Int.mul_nonneg (Int.natCast_nonneg n) (Int.le_of_lt hstep)
    omega
  · have hmul := Int.mul_nonpos_of_nonneg_of_nonpos (Int.natCast_nonneg n) (Int.le_of_lt hstep)
    omega

/-- A term that is not beyond the stop lies between the start and the stop. -/
theorem Reaches.inRange {start : Int} (hstart : Integer.InRange start)
    (hstop : Integer.InRange stop) {n : Nat} (h : Reaches stop step (start + n * step)) :
    Integer.InRange (start + n * step) := by
  unfold Integer.InRange at *
  rcases h with ⟨hstep, hle⟩ | ⟨hstep, hle⟩
  · have hmul := Int.mul_nonneg (Int.natCast_nonneg n) (Int.le_of_lt hstep)
    omega
  · have hmul := Int.mul_nonpos_of_nonneg_of_nonpos (Int.natCast_nonneg n) (Int.le_of_lt hstep)
    omega

end Terms

/-- **The terms of a progression** are one step apart, and go on as long as they are not beyond the
stop.

**Proof sketch.** By induction on the run of the progression. A next term that is out of range is
beyond the stop, which is in range; and behind a term beyond the stop there are only others. -/
theorem getElem?_progression {start stop step : Int} (hstart : Integer.InRange start)
    (hstop : Integer.InRange stop) (n : Nat) :
    (progression start stop step)[n]? =
      if Reaches stop step (start + n * step) then some (start + n * step) else none := by
  have hnext : ∀ (first : Int) (n : Nat),
      first + ((n + 1 : Nat) : Int) * step = first + step + n * step := by
    intro first n
    rw [Int.natCast_succ, Int.add_mul, Int.one_mul]
    omega
  fun_induction progression start stop step generalizing n with
  | case1 start hreaches next hcheck ih =>
    obtain ⟨hrange, rfl⟩ := Integer.check?_eq_some_iff.1 hcheck
    cases n with
    | zero => simp [hreaches]
    | succ n => rw [List.getElem?_cons_succ, ih hrange, hnext]
  | case2 start hreaches hcheck =>
    cases n with
    | zero => simp [hreaches]
    | succ n =>
      have hbeyond : ¬Reaches stop step (start + step) := by
        have hout := Integer.check?_eq_none_iff.1 hcheck
        unfold Integer.InRange at hout hstart hstop
        unfold Reaches at hreaches ⊢
        omega
      rw [hnext, if_neg (not_reaches_add_mul hbeyond n)]
      rfl
  | case3 start hbeyond =>
    rw [if_neg (not_reaches_add_mul hbeyond n)]
    rfl

/-- No term of a progression is out of range. -/
theorem inRange_of_mem_progression {start stop step : Int} (hstart : Integer.InRange start)
    (hstop : Integer.InRange stop) :
    ∀ term ∈ progression start stop step, Integer.InRange term := by
  intro term hterm
  obtain ⟨n, hn⟩ := List.mem_iff_getElem?.1 hterm
  rw [getElem?_progression hstart hstop, Option.ite_none_right_eq_some] at hn
  obtain ⟨hreaches, heq⟩ := hn
  obtain rfl := Option.some.inj heq
  exact hreaches.inRange hstart hstop

/-- A progression has at most so many terms when the term behind these is beyond the stop. -/
theorem length_progression_le_iff {start stop step : Int} (hstart : Integer.InRange start)
    (hstop : Integer.InRange stop) (count : Nat) :
    (progression start stop step).length ≤ count ↔ ¬Reaches stop step (start + count * step) := by
  rw [← List.getElem?_eq_none_iff, getElem?_progression hstart hstop]
  simp

end Specimen
