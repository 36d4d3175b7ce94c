import Specimen.Generation.Execution
import Specimen.Proofs.Rule.Reading

set_option autoImplicit false

/-!
# Rules that validation admits

Validation checks the numbers of a rule one after the other and stops at the first fault. A rule
that it admits is applied. The fault of any other rule names numbers of the rule that make no sense,
and a value is generated as if the rule were not there.

## Main definitions

* `Specimen.Rule.fields` — the numbers of a rule.
* `Specimen.RuleFault.IsOf` — what a fault says about a rule.

## Main results

* `Specimen.Rule.isOf_of_fault?` — the fault that is found is one of the rule.
* `Specimen.Rule.execute_obeys_validation` — what is executed.
-/

namespace Specimen

/-! ## Faults -/

/-- The numbers of a rule. -/
def Rule.fields : Rule → List Int
  | .stringRange min max | .numberRange min max | .booleanWeighted min max | .objectRange min max
  | .arrayRepeatRange min max => [min, max]
  | .stringCount count | .objectCount count | .arrayRepeatCount count => [count]
  | .numberIncrement step | .arrayPickSequential step => [step]
  | .floatRange min max minPlaces maxPlaces => [min, max, minPlaces, maxPlaces]
  | .floatCount count minPlaces maxPlaces => [count, minPlaces, maxPlaces]
  | .floatRangeFixed min max places => [min, max, places]
  | .floatFixed count places => [count, places]
  | .booleanRandom | .arrayPickOne => []

/-- What a fault says about a rule: it names numbers of the rule that make no sense. -/
def RuleFault.IsOf (rule : Rule) : RuleFault → Prop
  | .negativeBound bound => rule.isStep = false ∧ bound ∈ rule.fields ∧ bound < 0
  | .invertedRange min max => [min, max] <:+: rule.fields ∧ max < min
  | .zeroStep => rule.isStep = true ∧ rule.fields = [0]
  | .decimalPlaces places =>
    rule.isFraction = true ∧ places ∈ rule.fields ∧ (places < 0 ∨ 10 < places)
  | .zeroWeight => rule = .booleanWeighted 0 0
  | .repeatLimit count => count ∈ rule.fields ∧ 10000 < count

namespace Rule

/-- A check finds faults of a rule only. -/
def FindsOnly (rule : Rule) (check : Option RuleFault) : Prop :=
  ∀ fault ∈ check, fault.IsOf rule

section Checks

variable {rule : Rule}

/-- Of two checks the second is made when the first has found nothing. -/
theorem FindsOnly.orElse {first second : Option RuleFault} (hfirst : FindsOnly rule first)
    (hsecond : first = none → FindsOnly rule second) : FindsOnly rule (first <|> second) := by
  cases first with
  | none => exact hsecond rfl
  | some fault => exact hfirst

theorem findsOnly_ite {condition : Prop} [Decidable condition] {fault : RuleFault}
    (h : condition → fault.IsOf rule) :
    FindsOnly rule (if condition then some fault else none) := by
  intro found hfound
  obtain ⟨hcondition, hfault⟩ := Option.ite_none_right_eq_some.1 hfound
  exact Option.some.inj hfault ▸ h hcondition

theorem findsOnly_ite_not {condition : Prop} [Decidable condition] {fault : RuleFault}
    (h : ¬condition → fault.IsOf rule) :
    FindsOnly rule (if condition then none else some fault) := by
  rw [← ite_not]
  exact findsOnly_ite h

theorem findsOnly_negative? {bound : Int} (hstep : rule.isStep = false)
    (h : bound ∈ rule.fields) : FindsOnly rule (negative? bound) :=
  findsOnly_ite fun hneg => ⟨hstep, h, hneg⟩

theorem findsOnly_inverted? {min max : Int} (h : [min, max] <:+: rule.fields) :
    FindsOnly rule (inverted? min max) := findsOnly_ite fun hlt => ⟨h, hlt⟩

theorem findsOnly_tooMany? {count : Int} (h : count ∈ rule.fields) :
    FindsOnly rule (tooMany? count) := findsOnly_ite fun hlt => ⟨h, hlt⟩

theorem findsOnly_badStep? {step : Int} (hstep : rule.isStep = true) (h : rule.fields = [step]) :
    FindsOnly rule (badStep? step) := findsOnly_ite fun hzero => ⟨hstep, hzero ▸ h⟩

theorem findsOnly_badPlaces? {places : Int} (hfraction : rule.isFraction = true)
    (h : places ∈ rule.fields) : FindsOnly rule (badPlaces? places) := by
  refine findsOnly_ite_not fun hout => ⟨hfraction, h, ?_⟩
  unfold maxPlaces at hout
  omega

theorem findsOnly_badPlacesRange? {min max : Int} (hfraction : rule.isFraction = true)
    (h : [min, max] <:+: rule.fields) : FindsOnly rule (badPlacesRange? min max) := by
  have hmin : min ∈ rule.fields := h.subset (List.mem_cons_self ..)
  have hmax : max ∈ rule.fields := h.subset (List.mem_cons_of_mem _ (List.mem_cons_self ..))
  exact (findsOnly_badPlaces? hfraction hmin).orElse fun _ =>
    (findsOnly_badPlaces? hfraction hmax).orElse fun _ => findsOnly_inverted? h

end Checks

/-- Weights that are not below zero have the sum zero only when both are zero. -/
theorem findsOnly_badSum? {first second : Int} (hfirst : 0 ≤ first) (hsecond : 0 ≤ second) :
    FindsOnly (.booleanWeighted first second) (badSum? first second) := by
  refine findsOnly_ite_not fun hsum => ?_
  rw [Integer.saturate_pos_iff] at hsum
  obtain ⟨rfl, rfl⟩ : first = 0 ∧ second = 0 := by omega
  rfl

/-- **The fault that is found** is one of the rule.

**Proof sketch.** Each check finds only faults of the rule when the numbers it looks at are fields
of the rule, and checks that are made one after the other find only what one of them finds. -/
theorem isOf_of_fault? {rule : Rule} {fault : RuleFault} (h : rule.fault? = some fault) :
    fault.IsOf rule := by
  suffices hchecks : FindsOnly rule rule.fault? from hchecks fault h
  cases rule with
  | stringRange min max | arrayRepeatRange min max =>
    exact (findsOnly_negative? rfl (List.mem_cons_self ..)).orElse fun _ =>
      (findsOnly_inverted? List.infix_rfl).orElse fun _ =>
        findsOnly_tooMany? (List.mem_cons_of_mem _ (List.mem_cons_self ..))
  | stringCount count | arrayRepeatCount count =>
    exact (findsOnly_negative? rfl (List.mem_cons_self ..)).orElse fun _ =>
      findsOnly_tooMany? (List.mem_cons_self ..)
  | objectRange min max =>
    exact (findsOnly_negative? rfl (List.mem_cons_self ..)).orElse fun _ =>
      (findsOnly_negative? rfl (List.mem_cons_of_mem _ (List.mem_cons_self ..))).orElse fun _ =>
        findsOnly_inverted? List.infix_rfl
  | objectCount count => exact findsOnly_negative? rfl (List.mem_cons_self ..)
  | numberIncrement step | arrayPickSequential step => exact findsOnly_badStep? rfl rfl
  | numberRange min max => exact findsOnly_inverted? List.infix_rfl
  | floatRange min max minPlaces maxPlaces =>
    exact (findsOnly_inverted? ⟨[], [minPlaces, maxPlaces], rfl⟩).orElse fun _ =>
      findsOnly_badPlacesRange? rfl ⟨[min, max], [], rfl⟩
  | floatCount count minPlaces maxPlaces =>
    exact findsOnly_badPlacesRange? rfl ⟨[count], [], rfl⟩
  | floatRangeFixed min max places =>
    exact (findsOnly_inverted? ⟨[], [places], rfl⟩).orElse fun _ =>
      findsOnly_badPlaces? rfl (by simp [fields])
  | floatFixed count places => exact findsOnly_badPlaces? rfl (by simp [fields])
  | booleanRandom | arrayPickOne => exact fun _ hfault => absurd hfault (Option.not_mem_none _)
  | booleanWeighted first second =>
    have hmem : second ∈ [first, second] := List.mem_cons_of_mem _ (List.mem_cons_self ..)
    exact (findsOnly_negative? rfl (List.mem_cons_self ..)).orElse fun hfirst =>
      (findsOnly_negative? rfl hmem).orElse fun hsecond =>
        findsOnly_badSum? (negative?_eq_none_iff.1 hfirst) (negative?_eq_none_iff.1 hsecond)

/-! ## Execution -/

variable (rule : Rule)

/-- **Validation decides what is executed.** A rule has no fault exactly when it is admissible, and
then it is applied. The fault of any other rule is one of the rule, and executing it is generating
the value: from the same state, with nothing done before or after.

**Proof sketch.** A rule is valid when it is admissible; execution looks at nothing else. -/
theorem execute_obeys_validation :
    (rule.fault? = none ↔ rule.IsAdmissible) ∧
    (rule.IsAdmissible → ∀ value parts, execute (some rule) value parts = rule.apply value parts) ∧
    (¬rule.IsAdmissible →
      (∃ fault, rule.fault? = some fault ∧ fault.IsOf rule) ∧
      ∀ (sampler : Sampler) (generate : Json → Producer) (value : Json) (scope : Scope)
        (start : Progress),
        (execute (some rule) value (Parts.of sampler generate value) scope).run start =
          (generate value scope).run start) := by
  refine ⟨fault?_eq_none_iff, fun h value parts => ?_, fun h => ⟨?_, fun _ _ _ _ _ => ?_⟩⟩
  · rw [execute, if_pos (isValid_iff.2 h)]
  · obtain ⟨fault, hfault⟩ := Option.ne_none_iff_exists'.1 (mt fault?_eq_none_iff.1 h)
    exact ⟨fault, hfault, isOf_of_fault? hfault⟩
  · rw [execute, if_neg (mt isValid_iff.1 h)]
    rfl

/-- The sum of two weights may be out of range; one pick above the limit is one too many, and the
array is generated as a whole. -/
theorem execute_obeys_validation_limits :
    IsAdmissible (.booleanWeighted Integer.greatest Integer.greatest) ∧
    (∀ value parts,
      execute (some (.booleanWeighted Integer.greatest Integer.greatest)) value parts =
        apply (.booleanWeighted Integer.greatest Integer.greatest) value parts) ∧
    IsAdmissible (.arrayRepeatRange 0 10000) ∧ ¬IsAdmissible (.arrayRepeatRange 0 10001) ∧
    fault? (.arrayRepeatRange 0 10001) = some (.repeatLimit 10001) ∧
    ∀ (sampler : Sampler) (generate : Json → Producer) (scope : Scope) (start : Progress),
      (execute (some (.arrayRepeatRange 0 10001)) (.arr [.null, .bool true])
        (Parts.of sampler generate (.arr [.null, .bool true])) scope).run start =
          (generate (.arr [.null, .bool true]) scope).run start := by
  have hweights : IsAdmissible (.booleanWeighted Integer.greatest Integer.greatest) := by decide
  have hmany : ¬IsAdmissible (.arrayRepeatRange 0 10001) := by decide
  obtain ⟨-, happly, -⟩ :=
    execute_obeys_validation (.booleanWeighted Integer.greatest Integer.greatest)
  obtain ⟨-, -, hgenerate⟩ := execute_obeys_validation (.arrayRepeatRange 0 10001)
  exact ⟨hweights, happly hweights, by decide, hmany, by decide,
    fun sampler generate => (hgenerate hmany).2 sampler generate _⟩

end Rule

end Specimen
