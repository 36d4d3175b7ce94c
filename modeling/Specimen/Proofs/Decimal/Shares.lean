import Specimen.Generation.Execution
import Specimen.Proofs.Decimal.Rounding

set_option autoImplicit false

/-!
# Shares of weights

The probability of a coin with two weights is the share of the first in their sum. Sum and quotient
are rounded, but rounding does not leave the interval between zero and one: the rounded sum of two
numbers is not below either of them, and the rounded quotient by a number that is not smaller is not
above one. Both are seen from significands and exponents alone.

## Main definitions

* `Specimen.Decimal.PartsLe` — the order of positive numbers, by exponents and then significands.
* `Specimen.Decimal.IsShare` — a number between zero and one.

## Main results

* `Specimen.Decimal.exists_hasParts_add` — a sum is not below its first term.
* `Specimen.Decimal.exists_hasParts_div` — a quotient by a number that is not smaller is not above
  one.
* `Specimen.Rule.isShare_weight` — the share of a weight is between zero and one.
-/

namespace Specimen.Decimal

open Float.Model

/-- The first number is not above the second one. -/
def PartsLe (m₁ : Nat) (e₁ : Int) (m₂ : Nat) (e₂ : Int) : Prop :=
  e₁ < e₂ ∨ e₁ = e₂ ∧ m₁ ≤ m₂

/-! ## Sums -/

/-- A significand that is long enough is only rounded. -/
theorem round_eq {m : Nat} {e : Int} (hlog : 52 ≤ m.log2) (he : -1074 ≤ e) :
    UnpackedFloat.round .binary64 .positive m e =
      UnpackedFloat.roundWithAccuracy .binary64 .positive m e .exact := by
  have hshift : (e - ((m.log2 : Int) - 52 + e)).toNat = 0 := by omega
  rw [UnpackedFloat.round, targetExponent_eq (by omega), UnpackedFloat.decreaseExponent, hshift]
  simp

/-- A positive significand needs no other sign. -/
theorem normalize_eq {m : Nat} {e : Int} (hpos : 0 < m) :
    UnpackedFloat.normalize .binary64 m e .positive =
      UnpackedFloat.round .binary64 .positive m e := by
  have hcompare : compare (m : Int) 0 = .gt := by
    rw [Int.compare_eq_gt]
    omega
  rw [UnpackedFloat.normalize, hcompare]
  rfl

/-- Terms are added with the smaller of their exponents, and the sum is rounded. -/
theorem add_eq {m₁ m₂ : Nat} {e₁ e₂ : Int} (h₁ : 0 < m₁) (h₂ : 0 < m₂) :
    UnpackedFloat.add .binary64 (.finite .positive m₁ e₁ h₁) (.finite .positive m₂ e₂ h₂) =
      UnpackedFloat.round .binary64 .positive
        (m₁ * 2 ^ (e₁ - min e₁ e₂).toNat + m₂ * 2 ^ (e₂ - min e₁ e₂).toNat) (min e₁ e₂) := by
  have hpos : 0 < m₁ * 2 ^ (e₁ - min e₁ e₂).toNat + m₂ * 2 ^ (e₂ - min e₁ e₂).toNat :=
    Nat.add_pos_left (Nat.mul_pos h₁ (Nat.two_pow_pos _)) _
  rw [UnpackedFloat.add, ← normalize_eq hpos]
  simp [UnpackedFloat.decreaseExponent, UnpackedFloat.Sign.apply, Nat.shiftLeft_eq]

/-- A sum has at least the digits of its first term, and at most one more than the longer term. -/
theorem sum_bounds {m₁ m₂ : Nat} (hlow : 2 ^ 52 ≤ m₁) (h₁ : m₁ < 2 ^ 53) (h₂ : m₂ < 2 ^ 53)
    (k₁ k₂ : Nat) :
    2 ^ (52 + k₁) ≤ m₁ * 2 ^ k₁ + m₂ * 2 ^ k₂ ∧
      m₁ * 2 ^ k₁ + m₂ * 2 ^ k₂ < 2 ^ (54 + max k₁ k₂) := by
  have hterm : 2 ^ (52 + k₁) ≤ m₁ * 2 ^ k₁ := by
    rw [Nat.pow_add]
    exact Nat.mul_le_mul_right _ hlow
  have hbound : ∀ {m k : Nat}, m < 2 ^ 53 → k ≤ max k₁ k₂ →
      m * 2 ^ k < 2 ^ (53 + max k₁ k₂) := by
    intro m k hm hk
    calc m * 2 ^ k < 2 ^ 53 * 2 ^ k := Nat.mul_lt_mul_of_pos_right hm (Nat.two_pow_pos k)
      _ = 2 ^ (53 + k) := (Nat.pow_add ..).symm
      _ ≤ 2 ^ (53 + max k₁ k₂) := Nat.pow_le_pow_right (by decide) (by omega)
  have hterm₁ := hbound h₁ (Nat.le_max_left k₁ k₂)
  have hterm₂ := hbound h₂ (Nat.le_max_right k₁ k₂)
  have hdouble : 2 ^ (54 + max k₁ k₂) = 2 ^ (53 + max k₁ k₂) * 2 := by
    rw [← Nat.pow_succ]
    congr 1
    omega
  omega

/-- **A sum is not below its first term.**

**Proof sketch.** With the smaller exponent for both terms, the first one has a significand of
`52 + k₁` digits behind the first. Rounding cuts off at least `k₁` digits of the sum. When it cuts
off just so many, what is left is not below the significand of the term; when it cuts off more, the
exponent is greater than that of the term. -/
theorem exists_hasParts_add {x y : Float} {m₁ m₂ : Nat} {e₁ e₂ : Int} (hx : HasParts x m₁ e₁)
    (hy : HasParts y m₂ e₂) (h₁ : e₁ ≤ 900) (h₂ : e₂ ≤ 900) :
    ∃ m e, HasParts (x + y) m e ∧ PartsLe m₁ e₁ m e ∧ e ≤ max e₁ e₂ + 2 := by
  obtain ⟨hfull₁, hunpack₁⟩ := hx
  obtain ⟨hfull₂, hunpack₂⟩ := hy
  obtain ⟨low, hlow⟩ : ∃ low, low = min e₁ e₂ := ⟨_, rfl⟩
  obtain ⟨k₁, hk₁⟩ := Int.eq_ofNat_of_zero_le (by omega : 0 ≤ e₁ - low)
  obtain ⟨k₂, hk₂⟩ := Int.eq_ofNat_of_zero_le (by omega : 0 ≤ e₂ - low)
  have hmodel : (x + y).toModel = pack (UnpackedFloat.round .binary64 .positive
      (m₁ * 2 ^ k₁ + m₂ * 2 ^ k₂) low) := by
    change pack (UnpackedFloat.add .binary64 x.toModel.unpack y.toModel.unpack) = _
    rw [hunpack₁, hunpack₂, add_eq, ← hlow, hk₁, hk₂]
    rfl
  have hterm : m₁ * 2 ^ k₁ ≤ m₁ * 2 ^ k₁ + m₂ * 2 ^ k₂ := Nat.le_add_right _ _
  obtain ⟨hdigits, hdigits'⟩ := sum_bounds hfull₁.low hfull₁.high hfull₂.high k₁ k₂
  generalize m₁ * 2 ^ k₁ + m₂ * 2 ^ k₂ = sum at hmodel hterm hdigits hdigits'
  have hne : sum ≠ 0 := by
    have hpos := Nat.two_pow_pos (52 + k₁)
    omega
  have hlog : 52 + k₁ ≤ sum.log2 := (Nat.le_log2 hne).2 hdigits
  have hlog' : sum.log2 < 54 + max k₁ k₂ := (Nat.log2_lt hne).2 hdigits'
  obtain ⟨count, hcount⟩ := Nat.exists_eq_add_of_le (by omega : 52 ≤ sum.log2)
  have hleast : -1074 ≤ low := by
    have h₁ := hfull₁.least
    have h₂ := hfull₂.least
    omega
  obtain ⟨m, e, hfull, hrounds, hround⟩ :=
    exists_roundWithAccuracy hcount hleast (by omega) .exact
  rw [round_eq (by omega) hleast, hround] at hmodel
  have hkept : count = k₁ → m₁ ≤ sum / 2 ^ count := by
    rintro rfl
    exact (Nat.le_div_iff_mul_le (Nat.two_pow_pos _)).2 hterm
  refine ⟨m, e, hasParts_of_pack hfull hmodel, ?_, ?_⟩
  · unfold PartsLe
    cases hrounds with
    | within _ _ _ => omega
    | carry _ => omega
  · cases hrounds with
    | within _ _ _ => omega
    | carry _ => omega

/-! ## Quotients -/

/-- The digits of a quotient are taken so far that there are at least fifty-three of them. -/
theorem divCore_eq {m₁ m₂ : Nat} {e₁ e₂ : Int} (h₁ : IsFull m₁ e₁) (h₂ : IsFull m₂ e₂)
    (he : -1021 ≤ e₁ - e₂) :
    UnpackedFloat.divCore .binary64 m₁ e₁ m₂ e₂ =
      (m₁ * 2 ^ 53 / m₂, e₁ - e₂ - 53,
        UnpackedFloat.accuracyOfFraction (m₁ * 2 ^ 53 % m₂) m₂) := by
  have htarget : min (e₁ - e₂) (Format.targetExponent .binary64
      (totalExponent m₁ e₁ - totalExponent m₂ e₂)) = e₁ - e₂ - 53 := by
    have hleast : Format.minExponent .binary64 = -1074 := rfl
    have hdigits : (Format.mantissaBits .binary64 : Int) = 53 := rfl
    rw [Format.targetExponent, totalExponent, totalExponent, hleast, hdigits, h₁.log2, h₂.log2]
    omega
  have hshift : (e₁ - e₂ - (e₁ - e₂ - 53)).toNat = 53 := by omega
  simp only [UnpackedFloat.divCore, htarget, hshift, Nat.shiftLeft_eq]

/-- A quotient of significands with fifty-three digits has as many, or one more. -/
theorem quotient_bounds {m₁ m₂ : Nat} {e₁ e₂ : Int} (h₁ : IsFull m₁ e₁) (h₂ : IsFull m₂ e₂) :
    2 ^ 52 ≤ m₁ * 2 ^ 53 / m₂ ∧ m₁ * 2 ^ 53 / m₂ < 2 ^ 54 ∧
      (m₁ < m₂ → m₁ * 2 ^ 53 / m₂ < 2 ^ 53) := by
  have hlow₁ := h₁.low
  have hhigh₁ := h₁.high
  have hlow₂ := h₂.low
  have hhigh₂ := h₂.high
  refine ⟨?_, ?_, fun hlt => ?_⟩
  · rw [Nat.le_div_iff_mul_le h₂.pos]
    omega
  · rw [Nat.div_lt_iff_lt_mul h₂.pos]
    omega
  · rw [Nat.div_lt_iff_lt_mul h₂.pos]
    omega

/-- **A quotient by a number that is not smaller** is not above one.

**Proof sketch.** A quotient of equal numbers is one, with nothing to be rounded. Otherwise the
quotient has fifty-three digits behind the point, so that it can only be rounded to a number with
the exponent `-53` or less, or to a power of two that is not above one. -/
theorem exists_hasParts_div {x y : Float} {m₁ m₂ : Nat} {e₁ e₂ : Int} (hx : HasParts x m₁ e₁)
    (hy : HasParts y m₂ e₂) (he : -1021 ≤ e₁ - e₂) (hle : PartsLe m₁ e₁ m₂ e₂) :
    ∃ m e, HasParts (x / y) m e ∧ PartsLe m e (2 ^ 52) (-52) := by
  obtain ⟨hfull₁, hunpack₁⟩ := hx
  obtain ⟨hfull₂, hunpack₂⟩ := hy
  have hmodel : (x / y).toModel = pack (UnpackedFloat.roundWithAccuracy .binary64 .positive
      (m₁ * 2 ^ 53 / m₂) (e₁ - e₂ - 53)
      (UnpackedFloat.accuracyOfFraction (m₁ * 2 ^ 53 % m₂) m₂)) := by
    change pack (UnpackedFloat.div .binary64 x.toModel.unpack y.toModel.unpack) = _
    rw [hunpack₁, hunpack₂, UnpackedFloat.div, divCore_eq hfull₁ hfull₂ he]
    rfl
  by_cases heq : e₁ = e₂ ∧ m₁ = m₂
  · obtain ⟨rfl, rfl⟩ := heq
    have hone : IsFull (2 ^ 52) (-52) := ⟨by decide, by decide, by decide, by decide⟩
    have hround : UnpackedFloat.roundWithAccuracy .binary64 .positive (2 ^ 53) (-53) .exact =
        .finite .positive (2 ^ 52) (-52) hone.pos := rfl
    rw [Nat.mul_div_cancel_left _ hfull₁.pos, Nat.mul_mod_right, Int.sub_self, Int.zero_sub,
      UnpackedFloat.accuracyOfFraction, if_pos rfl, hround] at hmodel
    exact ⟨_, _, hasParts_of_pack hone hmodel, Or.inr ⟨rfl, Nat.le_refl _⟩⟩
  · unfold PartsLe at hle
    obtain ⟨hlow, hhigh, hsmall⟩ := quotient_bounds hfull₁ hfull₂
    generalize UnpackedFloat.accuracyOfFraction (m₁ * 2 ^ 53 % m₂) m₂ = accuracy at hmodel
    generalize m₁ * 2 ^ 53 / m₂ = quotient at hlow hhigh hsmall hmodel
    obtain ⟨count, hcount, hkept⟩ : ∃ count : Nat, quotient.log2 = 52 + count ∧
        e₁ - e₂ - 53 + count ≤ -53 := by
      rcases Nat.lt_or_ge quotient (2 ^ 53) with hlt | hge
      · exact ⟨0, log2_eq hlow hlt, by omega⟩
      · exact ⟨1, log2_eq hge hhigh, by omega⟩
    obtain ⟨m, e, hfull, hrounds, hround⟩ :=
      exists_roundWithAccuracy hcount (by omega : -1074 ≤ e₁ - e₂ - 53) (by omega) accuracy
    rw [hround] at hmodel
    refine ⟨m, e, hasParts_of_pack hfull hmodel, ?_⟩
    unfold PartsLe
    cases hrounds with
    | within _ _ _ => omega
    | carry _ => omega

/-! ## Comparisons -/

section Compare

variable {x y : Float} {order : Ordering}
  (h : UnpackedFloat.compare x.toModel.unpack y.toModel.unpack = some order)

include h

theorem le_of_compare (hle : order.isLE = true) : x ≤ y := by
  change decide (x.toModel.unpack.le y.toModel.unpack = true) = true
  rw [decide_eq_true_iff, UnpackedFloat.le, h]
  exact hle

theorem not_lt_of_compare (hge : order ≠ .lt) : ¬x < y := by
  change ¬decide (x.toModel.unpack.lt y.toModel.unpack = true) = true
  rw [decide_eq_true_iff, UnpackedFloat.lt, h, beq_iff_eq]
  intro hlt
  exact hge (Option.some.inj hlt)

end Compare

section PartsLe

variable {m₁ m₂ : Nat} {e₁ e₂ : Int} (h : PartsLe m₁ e₁ m₂ e₂)

include h

theorem PartsLe.isLE : ((compare e₁ e₂).then (compare m₁ m₂)).isLE = true := by
  rcases h with h | ⟨rfl, h⟩
  · rw [Int.compare_eq_lt.2 h]
    rfl
  · rw [Int.compare_eq_eq.2 rfl]
    exact Nat.isLE_compare.2 h

theorem PartsLe.ne_lt : (compare e₂ e₁).then (compare m₂ m₁) ≠ .lt := by
  rcases h with h | ⟨rfl, h⟩
  · rw [Int.compare_eq_gt.2 h]
    exact Ordering.noConfusion
  · rw [Int.compare_eq_eq.2 rfl]
    intro hlt
    exact absurd (Nat.compare_eq_lt.1 hlt) (Nat.not_lt.2 h)

end PartsLe

/-! ## Shares -/

/-- The number lies between zero and one. Because there are values that are no numbers, it is not
the same to say that it is not outside of them. -/
structure IsShare (x : Float) : Prop where
  /-- It is at least zero. -/
  zero_le : 0.0 ≤ x
  /-- It is at most one. -/
  le_one : x ≤ 1.0
  /-- It is not below zero. -/
  not_lt_zero : ¬x < 0.0
  /-- It is not above one. -/
  not_one_lt : ¬1.0 < x

theorem unpack_zero : (0.0 : Float).toModel.unpack = .zero .positive := rfl

theorem unpack_one :
    (1.0 : Float).toModel.unpack = .finite .positive (2 ^ 52) (-52) (by decide) := rfl

theorem unpack_ofInt_zero : (ofInt 0).toModel.unpack = .zero .positive := rfl

theorem isShare_of_unpack_eq_zero {x : Float} (h : x.toModel.unpack = .zero .positive) :
    IsShare x where
  zero_le := le_of_compare (by rw [h, unpack_zero]; rfl) (rfl : Ordering.eq.isLE = true)
  le_one := le_of_compare (by rw [h, unpack_one]; rfl) (rfl : Ordering.lt.isLE = true)
  not_lt_zero := not_lt_of_compare (by rw [h, unpack_zero]; rfl) (by decide : Ordering.eq ≠ .lt)
  not_one_lt := not_lt_of_compare (by rw [h, unpack_one]; rfl) (by decide : Ordering.gt ≠ .lt)

/-- A positive number that is not above one is a share. -/
theorem HasParts.isShare {x : Float} {m : Nat} {e : Int} (h : HasParts x m e)
    (hle : PartsLe m e (2 ^ 52) (-52)) : IsShare x := by
  obtain ⟨hfull, h⟩ := h
  exact {
    zero_le := le_of_compare (by rw [h, unpack_zero]; rfl) (rfl : Ordering.lt.isLE = true)
    le_one := le_of_compare (by rw [h, unpack_one]; rfl) hle.isLE
    not_lt_zero := not_lt_of_compare (by rw [h, unpack_zero]; rfl) (by decide : Ordering.gt ≠ .lt)
    not_one_lt := not_lt_of_compare (by rw [h, unpack_one]; rfl) hle.ne_lt }

section Zero

variable {x y : Float} {m : Nat} {e : Int}

/-- Zero in front of a number does not change it. -/
theorem HasParts.zero_add (hx : x.toModel.unpack = .zero .positive) (hy : HasParts y m e) :
    HasParts (x + y) m e := by
  obtain ⟨hfull, h⟩ := hy
  refine hasParts_of_pack hfull ?_
  change pack (UnpackedFloat.add .binary64 x.toModel.unpack y.toModel.unpack) = _
  rw [hx, h]
  rfl

/-- Zero behind a number does not change it. -/
theorem HasParts.add_zero (hx : HasParts x m e) (hy : y.toModel.unpack = .zero .positive) :
    HasParts (x + y) m e := by
  obtain ⟨hfull, h⟩ := hx
  refine hasParts_of_pack hfull ?_
  change pack (UnpackedFloat.add .binary64 x.toModel.unpack y.toModel.unpack) = _
  rw [hy, h]
  rfl

/-- The share of zero is zero. -/
theorem HasParts.unpack_zero_div (hx : x.toModel.unpack = .zero .positive) (hy : HasParts y m e) :
    (x / y).toModel.unpack = .zero .positive := by
  obtain ⟨hfull, h⟩ := hy
  have hquotient : UnpackedFloat.div .binary64 (.zero .positive)
      (.finite .positive m e hfull.pos) = .zero .positive := rfl
  change (pack (UnpackedFloat.div .binary64 x.toModel.unpack y.toModel.unpack)).unpack = _
  rw [hx, h, hquotient]
  rfl

end Zero

end Specimen.Decimal

namespace Specimen.Rule

open Decimal

/-- **The share of a weight** is between zero and one, when no weight is below zero and one is
above.

**Proof sketch.** A first weight of zero gives zero. Else both weights are numbers of full
precision, their sum is rounded to one that is not less than the first weight, and so the quotient
is rounded to at most one. -/
theorem isShare_weight {first second : Int} (hfirst : Integer.InRange first)
    (hsecond : Integer.InRange second) (hfirst' : 0 ≤ first) (hsecond' : 0 ≤ second)
    (hsum : 0 < first + second) : IsShare (weight first second) := by
  unfold weight
  rcases Int.le_iff_eq_or_lt.1 hfirst' with rfl | hpos
  · obtain ⟨m, e, hparts, -⟩ := hasParts_ofInt (by omega : 0 < second) hsecond
    have hparts' := HasParts.zero_add unpack_ofInt_zero hparts
    exact isShare_of_unpack_eq_zero (HasParts.unpack_zero_div unpack_ofInt_zero hparts')
  · obtain ⟨m, e, hparts, hleast, hgreatest⟩ := hasParts_ofInt hpos hfirst
    obtain ⟨m', e', hparts', hle, hgreatest'⟩ : ∃ m' e',
        HasParts (ofInt first + ofInt second) m' e' ∧ PartsLe m e m' e' ∧ e' ≤ 13 := by
      rcases Int.le_iff_eq_or_lt.1 hsecond' with rfl | hpos'
      · exact ⟨m, e, hparts.add_zero unpack_ofInt_zero, Or.inr ⟨rfl, Nat.le_refl m⟩, by omega⟩
      · obtain ⟨n, f, hother, -, hother'⟩ := hasParts_ofInt hpos' hsecond
        obtain ⟨m', e', hparts', hle, hmax⟩ :=
          exists_hasParts_add hparts hother (by omega) (by omega)
        exact ⟨m', e', hparts', hle, by omega⟩
    obtain ⟨n, f, hquotient, hone⟩ := exists_hasParts_div hparts hparts' (by omega) hle
    exact hquotient.isShare hone

end Specimen.Rule
