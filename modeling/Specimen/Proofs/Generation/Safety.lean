import Specimen.Proofs.Generation.Checked
import Specimen.Proofs.Rule.Grammar
import Specimen.Proofs.Rule.Outcome

set_option autoImplicit false

/-!
# Executing a rule does not fail

Rules are executed here with a check in front of every operation that has a precondition. Whatever
the numbers of a rule are, none of the checks fails: a rule that passes validation meets all of
them, and one that does not is not applied. What is executed is then what is executed without the
checks, so no precondition is ever left to a default.

## Main definitions

* `Specimen.Checked.execute` — what a rule, or none, makes of a value, with checks.
* `Specimen.Rule.FitsMemory` — the repetitions of a text fit memory.

## Main results

* `Specimen.Checked.isSafe_apply` — a rule without fault is safe to apply.
* `Specimen.Checked.isSafe_execute` — any rule is safe to execute.
-/

namespace Specimen

/-- The repetitions of a text that a rule can ask for fit memory. -/
def Rule.FitsMemory (rule : Rule) (value : Json) : Prop :=
  match rule with
  | .stringRange _ count | .stringCount count => value.asText.utf8ByteSize * count.toNat < 2 ^ 63
  | _ => True

/-- The weights of a rule without fault have a share. -/
theorem Rule.isShare_weight_of_isValid {first second : Int}
    (hvalid : Rule.isValid (.booleanWeighted first second) = true)
    (hfields : ∀ field ∈ Rule.fields (.booleanWeighted first second), Integer.InRange field) :
    Decimal.IsShare (Rule.weight first second) := by
  obtain ⟨hfirst, hsecond, hsum⟩ := Rule.isValid_iff.1 hvalid
  exact isShare_weight (hfields first (by simp [Rule.fields]))
    (hfields second (by simp [Rule.fields])) hfirst hsecond hsum

namespace Checked

/-! ## Texts and numbers -/

/-- A text repeated. A count above the limit, or a product that cannot be counted, leaves the value
alone. -/
def repeatText (value : Json) (count : Int) : Checked Json :=
  if count ≤ maxRepeat then do
    let copies ← size count
    if value.asText.utf8ByteSize * copies ≤ 2 ^ 64 - 1 then do
      require (value.asText.utf8ByteSize * copies ≤ 2 ^ 63 - 1) .memory
      pure (.str (String.ofList (List.replicate copies value.asText.toList).flatten))
    else pure value
  else pure value

/-- A text is safe to repeat as often as a rule allows, when the result fits memory. -/
theorem isSafe_repeatText {value : Json} {count : Int} (hnonneg : 0 ≤ count)
    (hlimit : count ≤ maxRepeat) (h : value.asText.utf8ByteSize * count.toNat < 2 ^ 63) :
    IsSafe (repeatText value count) (pure (Rule.repeatText value count)) := by
  have hrange : Integer.InRange count := by
    unfold maxRepeat at hlimit
    unfold Integer.InRange Integer.least Integer.greatest
    omega
  rw [repeatText, if_pos hlimit, size_eq hnonneg hrange, pure_bind, if_pos (by omega),
    require_bind (by omega), Rule.repeatText, if_pos ⟨hnonneg, hlimit⟩]
  exact isSafe_pure _

/-- An integer with a random fraction of so many places, at most ten, rounded to them. -/
def decimal (value : Json) (whole places : Int) : Checked Json := do
  let exponent ← unsigned 32 (max 0 (min places maxPlaces))
  let scale ← fits (Nat.pow 10 exponent)
  let last ← fits (scale - 1)
  let fraction ← integer 0 last
  let sum := Decimal.ofInt whole + Decimal.ofInt fraction / Decimal.ofInt scale
  let count ← size (max 0 (min places maxPlaces))
  match Decimal.roundToPlaces sum count with
  | some rounded => pure (.num (.float rounded))
  | none => pure value

/-- **A fraction is safe to draw**, since the power of ten for ten places fits sixty-four bits. -/
theorem isSafe_decimal (value : Json) (whole places : Int) :
    IsSafe (decimal value whole places) (Rule.decimal value whole places) := by
  have hplaces : 0 ≤ max 0 (min places maxPlaces) ∧ max 0 (min places maxPlaces) ≤ 10 := by
    unfold maxPlaces
    omega
  have hrange : Integer.InRange (max 0 (min places maxPlaces)) := by
    unfold Integer.InRange Integer.least Integer.greatest
    omega
  have hscale : 1 ≤ 10 ^ (max 0 (min places maxPlaces)).toNat ∧
      10 ^ (max 0 (min places maxPlaces)).toNat ≤ 10 ^ 10 :=
    ⟨Nat.pow_pos (by decide), Nat.pow_le_pow_right (by decide) (by omega)⟩
  unfold decimal Rule.decimal
  rw [unsigned_eq hplaces.1 (by omega), pure_bind]
  simp only [size_eq hplaces.1 hrange, pure_bind, Nat.pow_eq]
  generalize (max 0 (min places maxPlaces)).toNat = count at hscale
  have hfits : Integer.InRange ((10 ^ count : Nat) : Int) ∧
      Integer.InRange (((10 ^ count : Nat) : Int) - 1) := by
    unfold Integer.InRange Integer.least Integer.greatest
    omega
  rw [fits_eq hfits.1, pure_bind, fits_eq hfits.2, pure_bind]
  refine (isSafe_integer 0 _).bind_any fun fraction => ?_
  generalize Decimal.roundToPlaces _ count = rounded
  cases rounded <;> exact isSafe_pure _

/-! ## Objects and arrays -/

section Parts

variable (sampler : Sampler) (recurse : Json → Scope → Checked Json)

/-- So many random members of an object, in their order. -/
def pickMembers (value : Json) (count : Int) (scope : Scope) : Checked Json :=
  match value with
  | .obj members => do
    let amount ← size count
    let positions ← sample sampler members.length amount
    recurse (.obj (Parts.select members positions)) scope
  | other => pure other

/-- One random item of an array. -/
def pickItem (items : List Json) (scope : Scope) : Checked Json := do
  let position ← index items.length
  let item ← item items position
  recurse item scope

/-- The next item of an array in turn, round and round. -/
def pickInTurn (items : List Json) (step : Int) (scope : Scope) : Checked Json := do
  let turn ← advance (scope.path ++ Rule.positionSuffix) 0 step
  let length ← signed items.length
  let position ← remainder turn length
  let position ← size position
  let item ← item items position
  recurse item scope

/-- So many random picks from an array, at most as many as the limit allows. -/
def repeatPicks (value : Json) (count : Int) (scope : Scope) : Checked Json :=
  match value with
  | .arr [] => pure (.arr [])
  | .arr items => do
    let count ← size (max 0 (min count maxRepeat))
    Json.arr <$> many count (pickItem recurse items scope)
  | other => pure other

/-- A pick from an array that has items; any other value stays. -/
def pickFrom (value : Json) (pick : List Json → Scope → Checked Json) (scope : Scope) :
    Checked Json :=
  match value with
  | .arr (first :: rest) => pick (first :: rest) scope
  | other => pure other

/-! ## Rules -/

/-- What a rule without fault makes of a value. -/
def apply (rule : Rule) (value : Json) (scope : Scope) : Checked Json :=
  match rule with
  | .stringRange min max => do
    let count ← integer min max
    repeatText value count
  | .stringCount count => repeatText value count
  | .numberIncrement step =>
    Json.ofInt <$> advance scope.path (Rule.counterSeed value step) step
  | .numberRange min max => Json.ofInt <$> integer min max
  | .floatRange min max minPlaces maxPlaces => do
    let whole ← integer min max
    let places ← integer minPlaces maxPlaces
    decimal value whole places
  | .floatCount count minPlaces maxPlaces => do
    let places ← integer minPlaces maxPlaces
    decimal value count places
  | .floatRangeFixed min max places => do
    let whole ← integer min max
    decimal value whole places
  | .floatFixed count places => decimal value count places
  | .booleanRandom => Json.bool <$> lift (Gen.draw Draw.boolean)
  | .booleanWeighted min max => Json.bool <$> coin (Rule.weight min max)
  | .objectCount count => pickMembers sampler recurse value count scope
  | .objectRange min max => do
    let count ← integer min max
    pickMembers sampler recurse value count scope
  | .arrayPickOne => pickFrom value (pickItem recurse) scope
  | .arrayPickSequential step =>
    pickFrom value (fun items => pickInTurn recurse items step) scope
  | .arrayRepeatRange min max => do
    let count ← integer min max
    repeatPicks recurse value count scope
  | .arrayRepeatCount count => repeatPicks recurse value count scope

/-- The value that a rule, or none, makes of a value in a scope. -/
def execute (rule : Option Rule) (value : Json) (scope : Scope) : Checked Json :=
  match rule with
  | none => recurse value scope
  | some rule =>
    if rule.isValid then apply sampler recurse rule value scope else recurse value scope

end Parts

/-! ## Safety -/

/-- A pick is only made from an array that has items. -/
theorem isSafe_pickFrom {value : Json} {pick : List Json → Scope → Checked Json}
    {producer : Producer} {scope : Scope}
    (h : ∀ items, value = .arr items → items ≠ [] →
      IsSafe (pick items scope) (producer scope)) :
    IsSafe (pickFrom value pick scope) (Rule.pickFrom value producer scope) := by
  cases value with
  | arr items =>
    cases items with
    | nil => exact isSafe_pure _
    | cons first rest => exact h (first :: rest) rfl (List.cons_ne_nil first rest)
  | _ => exact isSafe_pure _

section Safety

variable {sampler : Sampler} {recurse : Json → Scope → Checked Json} {generate : Json → Producer}
  (hrecurse : ∀ value scope, IsSafe (recurse value scope) (generate value scope))

include hrecurse

/-- Members are safe to pick. -/
theorem isSafe_pickMembers (value : Json) {count : Int} (hnonneg : 0 ≤ count)
    (hrange : Integer.InRange count) (scope : Scope) :
    IsSafe (pickMembers sampler recurse value count scope)
      (Rule.pickMembers value (Parts.of sampler generate value) count scope) := by
  cases value with
  | obj members =>
    simp only [pickMembers, Rule.pickMembers, size_eq hnonneg hrange, pure_bind]
    exact (isSafe_sample sampler _ _).bind_any fun positions => hrecurse _ scope
  | _ => exact isSafe_pure _

/-- The item at a position of the array is there to be generated. -/
theorem isSafe_item {items : List Json} {position : Nat} (hlt : position < items.length)
    (scope : Scope) :
    IsSafe (do let item ← item items position; recurse item scope)
      ((items.map generate).getD position (fun _ => pure .null) scope) := by
  rw [item_eq hlt, pure_bind, List.getD_eq_getElem _ _ (by simpa using hlt), List.getElem_map]
  exact hrecurse _ scope

/-- **An item is safe to pick** from an array that has items. -/
theorem isSafe_pickItem {items : List Json} (hitems : items ≠ []) (scope : Scope) :
    IsSafe (pickItem recurse items scope) (Rule.pickItem (items.map generate) scope) := by
  have hpos : 0 < items.length := List.length_pos_iff.2 hitems
  have hposition : Gives (Gen.draw (Draw.index items.length)) (· < items.length) :=
    gives_draw fun source => Draw.index_lt hpos source
  unfold pickItem Rule.pickItem
  rw [List.length_map]
  exact (isSafe_index items.length).bind hposition fun position hlt =>
    isSafe_item hrecurse hlt scope

/-- **The item in turn is safe to pick** from an array that has items: the remainder by their number
is one of their positions, whatever the counter is. -/
theorem isSafe_pickInTurn {items : List Json} (hitems : items ≠ [])
    (hlength : items.length < 2 ^ 63) (step : Int) (scope : Scope) :
    IsSafe (pickInTurn recurse items step scope)
      (Rule.pickInTurn (items.map generate) step scope) := by
  have hpos : 0 < items.length := List.length_pos_iff.2 hitems
  unfold pickInTurn Rule.pickInTurn
  refine (isSafe_advance _ 0 step).bind_any fun turn => ?_
  have hlow := Int.emod_nonneg turn (by omega : (items.length : Int) ≠ 0)
  have hlt := Rule.turn_lt hpos turn
  have hrange : Integer.InRange (turn % items.length) := by
    unfold Integer.InRange Integer.least Integer.greatest
    omega
  rw [signed_eq hlength, pure_bind, remainder_eq (by omega), pure_bind, size_eq hlow hrange,
    pure_bind, List.length_map]
  exact isSafe_item hrecurse hlt scope

/-- Items are safe to pick many times. -/
theorem isSafe_repeatPicks (value : Json) (count : Int) (scope : Scope) :
    IsSafe (repeatPicks recurse value count scope)
      (Rule.repeatPicks value (Parts.of sampler generate value) count scope) := by
  have hcount : 0 ≤ max 0 (min count maxRepeat) ∧
      Integer.InRange (max 0 (min count maxRepeat)) := by
    unfold maxRepeat Integer.InRange Integer.least Integer.greatest
    omega
  cases value with
  | arr items =>
    cases items with
    | nil => exact isSafe_pure _
    | cons first rest =>
      simp only [repeatPicks, Rule.repeatPicks, size_eq hcount.1 hcount.2, pure_bind]
      exact ((isSafe_pickItem hrecurse (List.cons_ne_nil first rest) scope).many _).map Json.arr
  | _ => exact isSafe_pure _

/-- **A rule without fault is safe to apply.**

**Proof sketch.** What validation has found out about the numbers of the rule is what its operations
need: counts that are drawn between bounds are not below zero and not above the limit, and weights
have a share. -/
theorem isSafe_apply {rule : Rule} (hvalid : rule.isValid = true)
    (hfields : ∀ field ∈ rule.fields, Integer.InRange field) {value : Json}
    (hlength : ∀ items, value = .arr items → items.length < 2 ^ 63)
    (hmemory : rule.FitsMemory value) (scope : Scope) :
    IsSafe (apply sampler recurse rule value scope)
      (rule.apply value (Parts.of sampler generate value) scope) := by
  have hdraw : ∀ {min max : Int}, Integer.InRange min → Integer.InRange max → min ≤ max →
      Gives (Gen.draw (Draw.integer min max)) fun n => min ≤ n ∧ n ≤ max := by
    intro min max hmin hmax hle progress
    have hbetween := Draw.integer_mem hmin hmax progress.source
    rwa [Int.min_eq_left hle, Int.max_eq_right hle] at hbetween
  cases rule with
  | stringRange min max =>
    obtain ⟨hnonneg, hle, hlimit⟩ : 0 ≤ min ∧ min ≤ max ∧ max ≤ maxRepeat :=
      Rule.isValid_iff.1 hvalid
    have hcount := hdraw (hfields min (by simp [Rule.fields]))
      (hfields max (by simp [Rule.fields])) hle
    simp only [apply, Rule.apply, map_eq_pure_bind]
    refine (isSafe_integer min max).bind hcount fun count hcount => ?_
    refine isSafe_repeatText (by omega) (by omega) (Nat.lt_of_le_of_lt ?_ hmemory)
    exact Nat.mul_le_mul_left _ (by omega)
  | stringCount count =>
    obtain ⟨hnonneg, hlimit⟩ := Rule.isValid_iff.1 hvalid
    exact isSafe_repeatText hnonneg hlimit hmemory
  | numberIncrement step => exact (isSafe_advance _ _ step).map Json.ofInt
  | numberRange min max => exact (isSafe_integer min max).map Json.ofInt
  | floatRange min max minPlaces maxPlaces =>
    exact (isSafe_integer min max).bind_any fun whole =>
      (isSafe_integer minPlaces maxPlaces).bind_any fun places => isSafe_decimal value whole places
  | floatCount count minPlaces maxPlaces =>
    exact (isSafe_integer minPlaces maxPlaces).bind_any fun places =>
      isSafe_decimal value count places
  | floatRangeFixed min max places =>
    exact (isSafe_integer min max).bind_any fun whole => isSafe_decimal value whole places
  | floatFixed count places => exact isSafe_decimal value count places
  | booleanRandom => exact (isSafe_lift (Gen.draw Draw.boolean)).map Json.bool
  | booleanWeighted min max =>
    exact (isSafe_coin (Rule.isShare_weight_of_isValid hvalid hfields)).map Json.bool
  | objectCount count =>
    have hnonneg : 0 ≤ count := Rule.isValid_iff.1 hvalid
    exact isSafe_pickMembers hrecurse value hnonneg (hfields count (by simp [Rule.fields])) scope
  | objectRange min max =>
    obtain ⟨hnonneg, hle⟩ := Rule.isValid_iff.1 hvalid
    have hmax := hfields max (by simp [Rule.fields])
    have hcount := hdraw (hfields min (by simp [Rule.fields])) hmax hle
    refine (isSafe_integer min max).bind hcount fun count hcount => ?_
    have hrange : Integer.InRange count := by
      unfold Integer.InRange Integer.least at *
      omega
    exact isSafe_pickMembers hrecurse value (by omega) hrange scope
  | arrayPickOne =>
    refine isSafe_pickFrom fun items hvalue hitems => ?_
    subst hvalue
    exact isSafe_pickItem hrecurse hitems scope
  | arrayPickSequential step =>
    change IsSafe (pickFrom value (fun items => pickInTurn recurse items step) scope)
      (Rule.pickFrom value (Rule.pickInTurn (Parts.of sampler generate value).items step) scope)
    refine isSafe_pickFrom fun items hvalue hitems => ?_
    subst hvalue
    exact isSafe_pickInTurn hrecurse hitems (hlength items rfl) step scope
  | arrayRepeatRange min max =>
    exact (isSafe_integer min max).bind_any fun count =>
      isSafe_repeatPicks hrecurse value count scope
  | arrayRepeatCount count => exact isSafe_repeatPicks hrecurse value count scope

/-- **Any rule is safe to execute**: one with a fault is not applied. -/
theorem isSafe_execute {rule : Option Rule}
    (hfields : ∀ r ∈ rule, ∀ field ∈ r.fields, Integer.InRange field) {value : Json}
    (hlength : ∀ items, value = .arr items → items.length < 2 ^ 63)
    (hmemory : ∀ r ∈ rule, r.isValid = true → r.FitsMemory value) (scope : Scope) :
    IsSafe (execute sampler recurse rule value scope)
      (Rule.execute rule value (Parts.of sampler generate value) scope) := by
  cases rule with
  | none => exact hrecurse value scope
  | some rule =>
    unfold execute Rule.execute
    by_cases hvalid : rule.isValid = true
    · simp only [if_pos hvalid]
      exact isSafe_apply hrecurse hvalid (hfields rule rfl) hlength (hmemory rule rfl hvalid) scope
    · simp only [if_neg hvalid]
      exact hrecurse value scope

end Safety

/-- What a step with checks comes to, and no value where it fails. -/
def unchecked (step : Checked Json) : Gen Json := fun progress =>
  match step.run progress with
  | .ok outcome => outcome
  | .error _ => (.null, progress)

/-- A step that never fails is safe. -/
theorem isSafe_unchecked {step : Checked Json}
    (h : ∀ progress, ∃ outcome, step.run progress = .ok outcome) :
    IsSafe step (unchecked step) := by
  intro progress
  obtain ⟨outcome, houtcome⟩ := h progress
  have hrun : (unchecked step).run progress = outcome := by
    change (match step.run progress with
      | .ok outcome => outcome
      | .error _ => (.null, progress)) = outcome
    rw [houtcome]
  rw [houtcome, hrun]

/-- **Executing a rule does not fail.** For a rule with any numbers in range, or none, and any value
whose arrays are shorter than `2 ^ 63`, when the text that the rule repeats fits memory: if
generation of parts never fails, then no check in front of an operation fails, from any random
source and any state of the counters, and the result is that of execution without checks. The share
that a coin with weights is tossed with lies between zero and one.

**Proof sketch.** Without its checks a recursion that never fails is one that is safe. An admissible
rule keeps each of its numbers within what the operation behind it takes, and the checks on the
value follow from its length; other rules only recurse. -/
theorem execute_never_fails (sampler : Sampler) {recurse : Json → Scope → Checked Json}
    (hrecurse : ∀ value scope progress, ∃ outcome,
      (recurse value scope).run progress = .ok outcome)
    {rule : Option Rule} (hfields : ∀ r ∈ rule, ∀ field ∈ r.fields, Integer.InRange field)
    {value : Json} (hlength : ∀ items, value = .arr items → items.length < 2 ^ 63)
    (hmemory : ∀ r ∈ rule, r.isValid = true → r.FitsMemory value) :
    (∃ generate : Json → Producer,
      (∀ part scope, IsSafe (recurse part scope) (generate part scope)) ∧
      ∀ scope progress, (execute sampler recurse rule value scope).run progress =
        .ok ((Rule.execute rule value (Parts.of sampler generate value) scope).run progress)) ∧
    ∀ first second, some (.booleanWeighted first second) = rule →
      Rule.isValid (.booleanWeighted first second) = true →
        Decimal.IsShare (Rule.weight first second) := by
  constructor
  · have hgenerate : ∀ part scope, IsSafe (recurse part scope) (unchecked (recurse part scope)) :=
      fun part scope => isSafe_unchecked (hrecurse part scope)
    exact ⟨fun part scope => unchecked (recurse part scope), hgenerate,
      isSafe_execute hgenerate hfields hlength hmemory⟩
  · rintro first second rfl hvalid
    exact Rule.isShare_weight_of_isValid hvalid (hfields _ rfl)

/-- The longest repetition of a text. -/
theorem execute_never_fails_repeated :
    (∀ (value : Json) (_ : Scope) (progress : Progress), ∃ outcome,
      (pure value : Checked Json).run progress = .ok outcome) ∧
    (∀ r ∈ some (Rule.stringRange 0 10000), ∀ field ∈ r.fields, Integer.InRange field) ∧
    (∀ r ∈ some (Rule.stringRange 0 10000), r.isValid = true → r.FitsMemory (.str "ab")) ∧
    ∃ generate : Json → Producer,
      (∀ part scope, IsSafe (pure part) (generate part scope)) ∧
      ∀ scope progress,
        (execute Draw.positions (fun part _ => pure part) (some (.stringRange 0 10000)) (.str "ab")
          scope).run progress =
          .ok ((Rule.execute (some (.stringRange 0 10000)) (.str "ab")
            (Parts.of Draw.positions generate (.str "ab")) scope).run progress) := by
  have hrecurse : ∀ (value : Json) (_ : Scope) (progress : Progress), ∃ outcome,
      (pure value : Checked Json).run progress = .ok outcome :=
    fun value _ progress => ⟨(value, progress), rfl⟩
  have hfields : ∀ r ∈ some (Rule.stringRange 0 10000), ∀ field ∈ r.fields,
      Integer.InRange field := by decide
  have hmemory : ∀ r ∈ some (Rule.stringRange 0 10000), r.isValid = true →
      r.FitsMemory (.str "ab") := by
    rintro r ⟨⟩ -
    change "ab".utf8ByteSize * 10000 < 2 ^ 63
    decide
  exact ⟨hrecurse, hfields, hmemory,
    (execute_never_fails Draw.positions hrecurse hfields (by rintro items ⟨⟩) hmemory).1⟩

end Checked

end Specimen
