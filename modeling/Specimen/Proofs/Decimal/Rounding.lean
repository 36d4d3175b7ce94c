import Mathlib
import Specimen.Decimal.Binary64
import Specimen.Integer

set_option autoImplicit false

/-!
# Floating-point numbers with full precision

A positive number of sixty-four bits that is not next to zero is a significand of fifty-three digits
with an exponent. Its bits hold the exponent and the digits behind the first. A significand with
more digits is rounded: it loses the further digits and is then kept or raised by one. When this
makes it too long, it has become a power of two, and the exponent takes the carry.

## Main definitions

* `Specimen.Decimal.IsFull` — a significand of fifty-three digits with an exponent in range.
* `Specimen.Decimal.HasParts` — the significand and the exponent of a positive number.
* `Specimen.Decimal.Rounds` — what a significand and an exponent are rounded to.

## Main results

* `Specimen.Decimal.unpack_pack` — the bits give back significand and exponent.
* `Specimen.Decimal.hasParts_ofInt` — a positive integer in range has full precision.
* `Specimen.Decimal.exists_roundWithAccuracy` — rounding of a significand with further digits.
-/

namespace Specimen.Decimal

open Float.Model

/-! ## Bits -/

/-- The significand has fifty-three digits, and the exponent is that of a finite number. -/
structure IsFull (m : Nat) (e : Int) : Prop where
  /-- There are no fewer digits. -/
  low : 2 ^ 52 ≤ m
  /-- There are no more digits. -/
  high : m < 2 ^ 53
  /-- The exponent is not less than that of the numbers next to zero. -/
  least : -1074 ≤ e
  /-- The exponent is not greater than that of the greatest numbers. -/
  greatest : e ≤ 971

theorem IsFull.pos {m : Nat} {e : Int} (h : IsFull m e) : 0 < m :=
  Nat.lt_of_lt_of_le (by decide) h.low

theorem log2_eq {m k : Nat} (hlow : 2 ^ k ≤ m) (hhigh : m < 2 ^ (k + 1)) : m.log2 = k := by
  have hne : m ≠ 0 := by
    have hpos := Nat.two_pow_pos k
    omega
  exact (Nat.log2_eq_iff hne).2 ⟨hlow, hhigh⟩

theorem IsFull.log2 {m : Nat} {e : Int} (h : IsFull m e) : m.log2 = 52 := log2_eq h.low h.high

/-- The parts that bits with an exponent stand for: a one in front of the digits is not kept. -/
theorem unpack_packComponents {biased digits : Nat} (hpos : 0 < biased) (hlt : biased < 2047)
    (hdigits : digits < 2 ^ 52) :
    UnpackedFloat.unpack .binary64 (UnpackedFloat.packComponents .binary64 .positive
        (BitVec.ofNat 11 biased) (BitVec.ofNat 52 digits)) =
      .finite .positive (2 ^ 52 + digits) (biased - 1075) (by omega) := by
  have hexponent : (BitVec.ofNat 11 biased).toNat = biased := by
    rw [BitVec.toNat_ofNat]
    omega
  have hfraction : (BitVec.ofNat 52 digits).toNat = digits := by
    rw [BitVec.toNat_ofNat]
    omega
  have hfinite : BitVec.ofNat 11 biased ≠ -1#11 := by
    intro h
    have hnat := congrArg BitVec.toNat h
    rw [hexponent] at hnat
    simp at hnat
    omega
  have hnormal : BitVec.ofNat 11 biased ≠ 0#11 := by
    intro h
    have hnat := congrArg BitVec.toNat h
    rw [hexponent] at hnat
    simp at hnat
    omega
  have hsignificand : (1#1 ++ BitVec.ofNat 52 digits).toNat = 2 ^ 52 + digits := by
    rw [BitVec.toNat_append, hfraction, ← Nat.shiftLeft_add_eq_or_of_lt hdigits]
    rfl
  unfold UnpackedFloat.unpack
  simp only [UnpackedFloat.unpackExponent_packComponents,
    UnpackedFloat.unpackMantissa_packComponents, UnpackedFloat.unpackSign_packComponents,
    if_neg hfinite, if_neg hnormal, hexponent, hsignificand]
  rfl

/-- **The bits give back significand and exponent.**

**Proof sketch.** Packing takes the leading digit of the significand away and shifts the exponent;
within the range of full precision unpacking puts both back. -/
theorem unpack_pack {m : Nat} {e : Int} (h : IsFull m e) :
    UnpackedFloat.unpack .binary64 (UnpackedFloat.pack .binary64 (.finite .positive m e h.pos)) =
      .finite .positive m e h.pos := by
  have hlog := h.log2
  obtain ⟨hlow, hhigh, hleast, hgreatest⟩ := h
  obtain ⟨digits, rfl⟩ := Nat.exists_eq_add_of_le hlow
  obtain ⟨biased, hbiased⟩ := Int.eq_ofNat_of_zero_le (by omega : 0 ≤ e + 1075)
  have hexponent : (e + (Format.exponentBias .binary64 : Nat) + (52 : Nat)).toNat = biased := by
    simp only [Format.exponentBias]
    omega
  have hdigits : BitVec.ofNat 52 (2 ^ 52 + digits) = BitVec.ofNat 52 digits := by
    apply BitVec.eq_of_toNat_eq
    simp
  have hpack : UnpackedFloat.pack .binary64 (.finite .positive (2 ^ 52 + digits) e (by omega)) =
      UnpackedFloat.packComponents .binary64 .positive (BitVec.ofNat 11 biased)
        (BitVec.ofNat 52 digits) := by
    unfold UnpackedFloat.pack
    simp only [hlog, hexponent]
    rw [if_neg (by omega), if_pos (show 52 + 1 = Format.binary64.mantissaBits from rfl), hdigits]
  rw [hpack, unpack_packComponents (by omega) (by omega) (by omega)]
  simp only [UnpackedFloat.finite.injEq, true_and]
  omega

/-! ## Parts of numbers -/

/-- The positive number is `m · 2 ^ e`, with full precision. -/
def HasParts (x : Float) (m : Nat) (e : Int) : Prop :=
  ∃ h : IsFull m e, x.toModel.unpack = .finite .positive m e h.pos

/-- A number that is packed from its parts has them. -/
theorem hasParts_of_pack {x : Float} {m : Nat} {e : Int} (hfull : IsFull m e)
    (h : x.toModel = pack (.finite .positive m e hfull.pos)) : HasParts x m e := by
  refine ⟨hfull, ?_⟩
  rw [h]
  exact unpack_pack hfull

/-- The parts of a number of which the bits are known. -/
theorem hasParts_ofBits {biased digits : Nat} (hpos : 0 < biased) (hlt : biased < 2047)
    (hdigits : digits < 2 ^ 52) :
    HasParts (Float.ofBits (biased * 2 ^ 52 + digits).toUInt64) (2 ^ 52 + digits)
      (biased - 1075) := by
  have hfull : IsFull (2 ^ 52 + digits) (biased - 1075) :=
    ⟨by omega, by omega, by omega, by omega⟩
  have hbits : ((biased * 2 ^ 52 + digits).toUInt64).toBitVec =
      UnpackedFloat.packComponents .binary64 .positive (BitVec.ofNat 11 biased)
        (BitVec.ofNat 52 digits) := by
    have hhigh : (BitVec.ofNat 11 biased).toNat = biased := Nat.mod_eq_of_lt (by omega)
    have hexponent : (0#1 ++ BitVec.ofNat 11 biased).toNat = biased := by
      rw [BitVec.toNat_append, hhigh]
      simp
    have hlow : (BitVec.ofNat 52 digits).toNat = digits := Nat.mod_eq_of_lt hdigits
    apply BitVec.eq_of_toNat_eq
    have hright : (UnpackedFloat.packComponents .binary64 .positive (BitVec.ofNat 11 biased)
        (BitVec.ofNat 52 digits)).toNat = biased * 2 ^ 52 + digits := by
      unfold UnpackedFloat.packComponents UnpackedFloat.Sign.toBitVec
      rw [BitVec.toNat_append, hexponent, hlow, ← Nat.shiftLeft_add_eq_or_of_lt hdigits,
        Nat.shiftLeft_eq]
    rw [hright, UInt64.toNat_toBitVec, Nat.toUInt64_eq, UInt64.toNat_ofNat']
    omega
  refine hasParts_of_pack hfull ?_
  rw [← unpack_packComponents hpos hlt hdigits, ← hbits]
  rfl

/-! ## Integers -/

theorem roundQuotient_bounds (numerator denominator : Nat) :
    numerator / denominator ≤ roundQuotient numerator denominator ∧
      roundQuotient numerator denominator ≤ numerator / denominator + 1 := by
  unfold roundQuotient
  dsimp only
  split
  · omega
  · split <;> omega

/-- Scaled by its number of digits, an integer has fifty-three of them in front of the point. -/
theorem scaleDown_log2 {n dividend divisor : Nat} (hpos : 0 < n)
    (hscale : scaleDown n 1 ((n.log2 : Int) - 52) = (dividend, divisor)) :
    2 ^ 52 ≤ dividend / divisor ∧ dividend / divisor < 2 ^ 53 := by
  have hne : n ≠ 0 := Nat.ne_of_gt hpos
  have hlow := Nat.log2_self_le hne
  have hhigh := Nat.lt_log2_self (n := n)
  generalize n.log2 = digits at hlow hhigh hscale
  simp only [scaleDown, Nat.pow_eq, Nat.one_mul, Prod.mk.injEq] at hscale
  obtain ⟨rfl, rfl⟩ := hscale
  rcases Nat.le_total digits 52 with hle | hle
  · obtain ⟨k, hk⟩ := Nat.exists_eq_add_of_le hle
    have hup : (-((digits : Int) - 52)).toNat = k := by omega
    have hdown : ((digits : Int) - 52).toNat = 0 := by omega
    rw [hup, hdown, Nat.pow_zero, Nat.div_one]
    have hlow' := Nat.mul_le_mul_right (2 ^ k) hlow
    have hhigh' := Nat.mul_lt_mul_of_pos_right hhigh (Nat.two_pow_pos k)
    rw [← Nat.pow_add] at hlow' hhigh'
    rw [← hk] at hlow'
    rw [show digits + 1 + k = 53 by omega] at hhigh'
    exact ⟨hlow', hhigh'⟩
  · obtain ⟨k, hk⟩ := Nat.exists_eq_add_of_le hle
    have hup : (-((digits : Int) - 52)).toNat = 0 := by omega
    have hdown : ((digits : Int) - 52).toNat = k := by omega
    rw [hup, hdown, Nat.pow_zero, Nat.mul_one]
    rw [hk, Nat.pow_add] at hlow
    rw [show digits + 1 = 53 + k by omega, Nat.pow_add] at hhigh
    exact ⟨(Nat.le_div_iff_mul_le (Nat.two_pow_pos k)).2 hlow,
      (Nat.div_lt_iff_lt_mul (Nat.two_pow_pos k)).2 hhigh⟩

/-- The exponent and the rounded significand that make the bits of a positive integer, as long as
they are not those of infinity. -/
theorem nearestBits_eq {n dividend divisor : Nat} (hpos : 0 < n)
    (hscale : scaleDown n 1 ((n.log2 : Int) - 52) = (dividend, divisor)) :
    nearestBits n 1 = min ((n.log2 + 1022) * 2 ^ 52 + roundQuotient dividend divisor)
      (2047 * 2 ^ 52) := by
  have hguess : (n.log2 : Int) - (1 : Nat).log2 - 52 = (n.log2 : Int) - 52 := by
    rw [show (1 : Nat).log2 = 0 from rfl]
    omega
  have hexponent : max ((n.log2 : Int) - 52) (-1074) = (n.log2 : Int) - 52 := by omega
  have hplace : ((n.log2 : Int) - 52 + 1074).toNat = n.log2 + 1022 := by omega
  have hkept : ¬dividend / divisor < fullPrecision := Nat.not_lt.2 (scaleDown_log2 hpos hscale).1
  unfold nearestBits
  rw [if_neg (Nat.ne_of_gt hpos)]
  simp only [hguess, hscale, if_neg hkept, hexponent, hplace]
  rfl

/-- The bits of the number nearest to a positive integer in range. -/
theorem exists_nearestBits {n : Nat} (hpos : 0 < n) (h : n < 2 ^ 63) :
    ∃ biased digits, nearestBits n 1 = biased * 2 ^ 52 + digits ∧ digits < 2 ^ 52 ∧
      1023 ≤ biased ∧ biased ≤ 1086 := by
  have hlog : n.log2 < 63 := (Nat.log2_lt (Nat.ne_of_gt hpos)).2 h
  obtain ⟨dividend, divisor, hscale⟩ :
    ∃ dividend divisor, scaleDown n 1 ((n.log2 : Int) - 52) = (dividend, divisor) := ⟨_, _, rfl⟩
  have hbits := nearestBits_eq hpos hscale
  obtain ⟨hlow, hhigh⟩ := scaleDown_log2 hpos hscale
  obtain ⟨hround, hround'⟩ := roundQuotient_bounds dividend divisor
  generalize roundQuotient dividend divisor = significand at hround hround' hbits
  generalize dividend / divisor = quotient at hlow hhigh hround hround'
  rcases Nat.lt_or_ge significand (2 ^ 53) with hlt | hge
  · exact ⟨n.log2 + 1023, significand - 2 ^ 52, by omega, by omega, by omega, by omega⟩
  · exact ⟨n.log2 + 1024, 0, by omega, by omega, by omega, by omega⟩

/-- **A positive integer in range has full precision.** -/
theorem hasParts_ofInt {n : Int} (hpos : 0 < n) (h : Integer.InRange n) :
    ∃ m e, HasParts (ofInt n) m e ∧ -52 ≤ e ∧ e ≤ 11 := by
  have hrange : n.natAbs < 2 ^ 63 := by
    unfold Integer.InRange Integer.greatest at h
    omega
  obtain ⟨biased, digits, hbits, hdigits, hleast, hgreatest⟩ :=
    exists_nearestBits (by omega : 0 < n.natAbs) hrange
  have hofInt : ofInt n = Float.ofBits (biased * 2 ^ 52 + digits).toUInt64 := by
    rw [ofInt, nearest, hbits, if_neg (by simpa using Int.le_of_lt hpos), Nat.add_zero]
  rw [hofInt]
  exact ⟨_, _, hasParts_ofBits (by omega) (by omega) hdigits, by omega, by omega⟩

/-! ## Rounding -/

/-- What a significand of fifty-three digits with further digits behind it, and its exponent, are
rounded to. -/
inductive Rounds (m : Nat) (e : Int) : Nat → Int → Prop where
  /-- The significand is kept or raised by one. -/
  | within {rounded : Nat} (hlow : m ≤ rounded) (hhigh : rounded ≤ m + 1)
    (hlt : rounded < 2 ^ 53) : Rounds m e rounded e
  /-- It is raised to a power of two, which takes one more digit. -/
  | carry (hm : m + 1 = 2 ^ 53) : Rounds m e (2 ^ 52) (e + 1)

/-- The digits that are not cut off are those of a quotient. -/
theorem mantissa_shiftRight (extended : UnpackedFloat.ExtendedMantissa) (count : Nat) :
    (extended >>> count).mantissa = extended.mantissa / 2 ^ count := by
  change (count.repeat UnpackedFloat.ExtendedMantissa.shiftRightOne extended).mantissa = _
  induction count with
  | zero => simp [Nat.repeat]
  | succ count ih =>
    rw [Nat.repeat, UnpackedFloat.ExtendedMantissa.shiftRightOne, ih, Nat.div_div_eq_div_mul,
      ← Nat.pow_succ]

/-- Rounding keeps the significand or raises it by one. -/
theorem roundedMantissa_bounds (extended : UnpackedFloat.ExtendedMantissa) :
    extended.mantissa ≤ extended.roundedMantissa ∧
      extended.roundedMantissa ≤ extended.mantissa + 1 := by
  unfold UnpackedFloat.ExtendedMantissa.roundedMantissa
  cases extended.accuracy with
  | exact => exact ⟨Nat.le_refl _, Nat.le_succ _⟩
  | inexact order =>
    cases order <;> simp only [UnpackedFloat.Accuracy.roundToNearestEven] <;> omega

theorem mantissa_ofMantissaAndAccuracy (m : Nat) (accuracy : UnpackedFloat.Accuracy) :
    (UnpackedFloat.ExtendedMantissa.ofMantissaAndAccuracy m accuracy).mantissa = m := by
  unfold UnpackedFloat.ExtendedMantissa.ofMantissaAndAccuracy
  split <;> rfl

/-- The exponent that leaves fifty-three digits of a significand, where numbers are not next to
zero. -/
theorem targetExponent_eq {m : Nat} {e : Int} (h : -1074 ≤ m.log2 - 52 + e) :
    Format.targetExponent .binary64 (totalExponent m e) = m.log2 - 52 + e := by
  have hleast : Format.minExponent .binary64 = -1074 := rfl
  have hdigits : (Format.mantissaBits .binary64 : Int) = 53 := rfl
  rw [Format.targetExponent, totalExponent, hleast, hdigits]
  omega

/-- Digits that are too many are cut off, and the exponent grows by their number. -/
theorem shiftToTargetExponent_eq {m count : Nat} {e : Int} (hlog : m.log2 = 52 + count)
    (he : -1074 ≤ e) (accuracy : UnpackedFloat.Accuracy) :
    UnpackedFloat.shiftToTargetExponent .binary64 m e accuracy =
      (UnpackedFloat.ExtendedMantissa.ofMantissaAndAccuracy m accuracy >>> count, e + count) := by
  have hcount : ((m.log2 : Int) - 52 + e - e).toNat = count := by omega
  rw [UnpackedFloat.shiftToTargetExponent, targetExponent_eq (by omega),
    UnpackedFloat.shiftToExponent, hcount]

/-- **Rounding of a significand with further digits** leaves fifty-three of them.

**Proof sketch.** The digits that are too many are cut off, and what is left is kept or raised by
one. If that makes it `2 ^ 53`, one more digit is cut off, which is a zero. -/
theorem exists_roundWithAccuracy {m count : Nat} {e : Int} (hlog : m.log2 = 52 + count)
    (he : -1074 ≤ e) (he' : e + count ≤ 970) (accuracy : UnpackedFloat.Accuracy) :
    ∃ m' e', ∃ h : IsFull m' e', Rounds (m / 2 ^ count) (e + count) m' e' ∧
      UnpackedFloat.roundWithAccuracy .binary64 .positive m e accuracy =
        .finite .positive m' e' h.pos := by
  have hne : m ≠ 0 := by
    rintro rfl
    rw [Nat.log2_zero] at hlog
    omega
  have hlow : 2 ^ 52 ≤ m / 2 ^ count := by
    rw [Nat.le_div_iff_mul_le (Nat.two_pow_pos count), ← Nat.pow_add, ← hlog]
    exact Nat.log2_self_le hne
  have hhigh : m / 2 ^ count < 2 ^ 53 := by
    rw [Nat.div_lt_iff_lt_mul (Nat.two_pow_pos count), ← Nat.pow_add,
      show 53 + count = m.log2 + 1 by omega]
    exact Nat.lt_log2_self
  obtain ⟨hround, hround'⟩ := roundedMantissa_bounds
    (UnpackedFloat.ExtendedMantissa.ofMantissaAndAccuracy m accuracy >>> count)
  rw [mantissa_shiftRight, mantissa_ofMantissaAndAccuracy] at hround hround'
  unfold UnpackedFloat.roundWithAccuracy
  rw [shiftToTargetExponent_eq hlog he]
  simp only
  generalize (UnpackedFloat.ExtendedMantissa.ofMantissaAndAccuracy m accuracy >>>
    count).roundedMantissa = rounded at hround hround'
  rcases Nat.lt_or_ge rounded (2 ^ 53) with hlt | hge
  · have hlog' : rounded.log2 = 52 + 0 := log2_eq (by omega) hlt
    have hfull : IsFull rounded (e + count) := ⟨by omega, hlt, by omega, by omega⟩
    refine ⟨rounded, _, hfull, .within hround hround' hlt, ?_⟩
    rw [shiftToTargetExponent_eq hlog' (by omega)]
    simp [mantissa_shiftRight, mantissa_ofMantissaAndAccuracy, Nat.ne_of_gt hfull.pos]
  · obtain rfl : rounded = 2 ^ 53 := by omega
    have hlog' : (2 ^ 53).log2 = 52 + 1 := by decide
    have hfull : IsFull (2 ^ 52) (e + count + 1) := ⟨by omega, by omega, by omega, by omega⟩
    refine ⟨2 ^ 52, _, hfull, .carry (by omega), ?_⟩
    rw [shiftToTargetExponent_eq hlog' (by omega)]
    simp [mantissa_shiftRight, mantissa_ofMantissaAndAccuracy]

end Specimen.Decimal
