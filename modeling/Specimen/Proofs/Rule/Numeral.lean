import Specimen.Proofs.Rule.Reading
import Specimen.Proofs.Text.Digits

set_option autoImplicit false

/-!
# Counts and steps in keys

An integer in range is read back from the numeral that it is usually written with. So are the counts
and the steps that a key gives in this way, and the name in front of them.

## Main results

* `Specimen.Integer.read?_toString` — an integer is read back from its numeral.
* `Specimen.Key.usable?_count` — the rule of a key with a count on an array.
* `Specimen.Key.usable?_step` — the rule of a key with a step on a number.
-/

namespace Specimen

/-! ## Numerals -/

namespace Integer

/-- The digits of a number write the number. -/
theorem readNat?_toDigits (n : Nat) : readNat? (Nat.toDigits 10 n) = some n := by
  have hdigits : (Nat.toDigits 10 n).all isDigit = true :=
    List.all_eq_true.2 fun _ hc => isDigit_of_mem_toDigits hc
  rw [readNat?, if_pos ⟨Nat.toDigits_ne_nil, hdigits⟩, ofDigits_toDigits]

/-- Only digits are among the digits of a number. -/
theorem not_mem_toDigits {c : Char} (h : isDigit c = false) (n : Nat) : c ∉ Nat.toDigits 10 n := by
  intro hmem
  have hdigit := isDigit_of_mem_toDigits hmem
  rw [h] at hdigit
  cases hdigit

/-- The digits of a number begin with none but a digit. -/
theorem toDigits_ne_cons {c : Char} (h : isDigit c = false) (n : Nat) (rest : List Char) :
    Nat.toDigits 10 n ≠ c :: rest := fun heq =>
  not_mem_toDigits h n (heq ▸ List.mem_cons_self ..)

/-- The digits of a number have no sign. -/
theorem read?_toDigits {n : Nat} (h : InRange n) : read? (Nat.toDigits 10 n) = some (n : Int) := by
  rw [read?.eq_3 _ (toDigits_ne_cons (by decide) n) (toDigits_ne_cons (by decide) n),
    readNat?_toDigits, Option.bind_some, check?, if_pos h]

/-- **An integer is read back from its numeral.** -/
theorem read?_toString {n : Int} (h : InRange n) : read? (toString n).toList = some n := by
  rw [Int.toString_eq_repr, Int.repr_eq_if]
  split
  · rename_i hpos
    obtain ⟨m, rfl⟩ := Int.eq_ofNat_of_zero_le hpos
    rw [Int.toNat_natCast, Nat.toList_repr]
    exact read?_toDigits h
  · rename_i hneg
    have hvalue : -(((-n).toNat : Nat) : Int) = n := by omega
    have hchars : ("-" ++ (-n).toNat.repr).toList = '-' :: Nat.toDigits 10 (-n).toNat := by
      rw [String.toList_append, Nat.toList_repr]
      rfl
    rw [hchars, read?, readNat?_toDigits, Option.bind_some, hvalue, check?, if_pos h]

end Integer

/-! ## Keys with numerals -/

namespace Key

/-- A name without a bar comes off a rule text behind a bar. -/
theorem split?_append {name rule : String} (hname : name ≠ "") (hrule : rule ≠ "")
    (hbar : '|' ∉ name.toList) : split? (name ++ "|" ++ rule) = some (name, rule) :=
  split?_eq_some_iff.2 ⟨rfl, hname, hrule, fun h => hbar (List.mem_of_mem_tail h)⟩

/-- A count of at least two on an array repeats picks from it. -/
theorem usable?_count {name : String} (hname : name ≠ "") (hbar : '|' ∉ name.toList) {count : Nat}
    (hlow : 2 ≤ count) (hhigh : count ≤ maxRepeat) (items : List Json) :
    Key.name (name ++ "|" ++ toString count) = name ∧
      usable? (name ++ "|" ++ toString count) (.arr items) = some (.arrayRepeatCount count) := by
  have hsplit : split? (name ++ "|" ++ toString count) = some (name, toString count) :=
    split?_append hname Nat.repr_ne_empty hbar
  have hrange : Integer.InRange count := by
    simp only [maxRepeat] at hhigh
    simp only [Integer.InRange, Integer.least, Integer.greatest]
    omega
  have hread : Rule.read? (Nat.toDigits 10 count) .array = some (.arrayRepeatCount count) := by
    rw [Rule.read?.eq_2 _ _ (Integer.toDigits_ne_cons (by decide) count),
      if_neg (Integer.not_mem_toDigits (by decide) count),
      if_neg (Integer.not_mem_toDigits (by decide) count), Integer.read?_toDigits hrange,
      Option.bind_some, Rule.ofCount?, if_neg (by omega)]
  refine ⟨name_eq_of_split? hsplit, usable?_eq_some_iff.2 ⟨⟨.array, rfl, ?_⟩, ?_⟩⟩
  · rw [rule?_eq, hsplit]
    simp only [Nat.toString_eq_repr, Nat.toList_repr, hread]
  · exact Rule.isValid_iff.2 ⟨Int.natCast_nonneg count, hhigh⟩

/-- A step other than zero on a number counts. -/
theorem usable?_step {name : String} (hname : name ≠ "") (hbar : '|' ∉ name.toList) {step : Int}
    (hrange : Integer.InRange step) (hstep : step ≠ 0) (number : Number) :
    Key.name (name ++ "|+" ++ toString step) = name ∧
      usable? (name ++ "|+" ++ toString step) (.num number) = some (.numberIncrement step) := by
  have hkey : name ++ "|+" ++ toString step = name ++ "|" ++ ("+" ++ toString step) := by
    simp [← String.toList_inj]
  have hsplit : split? (name ++ "|+" ++ toString step) = some (name, "+" ++ toString step) := by
    rw [hkey]
    exact split?_append hname (by simp) hbar
  have hchars : ("+" ++ toString step).toList = '+' :: (toString step).toList := by
    rw [String.toList_append]
    rfl
  refine ⟨name_eq_of_split? hsplit, usable?_eq_some_iff.2 ⟨⟨.number, rfl, ?_⟩, ?_⟩⟩
  · simp only [rule?_eq, hsplit, hchars, Rule.read?, Integer.read?_toString hrange]
    rfl
  · exact Rule.isValid_iff.2 hstep

end Key

end Specimen
