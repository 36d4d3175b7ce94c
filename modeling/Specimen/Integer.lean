set_option autoImplicit false

/-!
# Signed sixty-four-bit integers

Bounds, counters and steps are integers of sixty-four bits. They are kept as `Int`; the range is a
predicate, and the two operations that could leave it say what happens there: reading a numeral
outside the range fails, adding to a counter stops at the nearest end.

## Main definitions

* `Specimen.Integer.InRange` — the integers that sixty-four signed bits can hold.
* `Specimen.Integer.saturate` — the nearest integer in the range.
* `Specimen.Integer.ofLength` — a length as an integer of the range.
* `Specimen.Integer.read?` — the value of a decimal numeral with an optional sign.
-/

namespace Specimen.Integer

/-- The least integer in range. -/
def least : Int := -9223372036854775808

/-- The greatest integer in range. -/
def greatest : Int := 9223372036854775807

/-- What sixty-four signed bits can hold. -/
def InRange (n : Int) : Prop := least ≤ n ∧ n ≤ greatest

instance (n : Int) : Decidable (InRange n) := by unfold InRange; infer_instance

/-- The integer in range that is nearest to `n`. -/
def saturate (n : Int) : Int :=
  if n < least then least else if greatest < n then greatest else n

/-- A length as an integer; one that is too great counts as the greatest. -/
def ofLength (length : Nat) : Int := saturate length

/-! ## Numerals -/

/-- An ASCII decimal digit. -/
def isDigit (c : Char) : Bool := '0' ≤ c && c ≤ '9'

/-- The value of an ASCII decimal digit. -/
def digitValue (c : Char) : Nat := c.toNat - '0'.toNat

/-- The number that decimal digits write, the most significant first. -/
def ofDigits (digits : List Char) : Nat :=
  digits.foldl (fun n c => 10 * n + digitValue c) 0

/-- An unsigned numeral: at least one digit, and digits only. -/
def readNat? (text : List Char) : Option Nat :=
  if text ≠ [] ∧ text.all isDigit then some (ofDigits text) else none

/-- The value of a digit in a base of at most sixteen; letters in either case. -/
def digit? (base : Nat) (c : Char) : Option Nat :=
  let value? : Option Nat :=
    if '0' ≤ c ∧ c ≤ '9' then some (c.toNat - '0'.toNat)
    else if 'a' ≤ c ∧ c ≤ 'f' then some (c.toNat - 'a'.toNat + 10)
    else if 'A' ≤ c ∧ c ≤ 'F' then some (c.toNat - 'A'.toNat + 10)
    else none
  value?.filter fun value => value < base

/-- The number that digits of a base write, the most significant first. -/
def ofBase? (base : Nat) (digits : List Char) : Option Nat :=
  digits.foldlM (fun n c => (digit? base c).map fun value => base * n + value) 0

/-- An integer, when it is in range. -/
def check? (n : Int) : Option Int :=
  if InRange n then some n else none

/-- A numeral with an optional sign; no blanks, and out of range is a failure. -/
def read? : List Char → Option Int
  | '-' :: digits => (readNat? digits).bind fun n => check? (-(n : Int))
  | '+' :: digits => (readNat? digits).bind fun n => check? n
  | digits => (readNat? digits).bind fun n => check? n

theorem check?_eq_some_iff {n m : Int} : check? n = some m ↔ InRange n ∧ n = m := by
  rw [check?, Option.ite_none_right_eq_some, Option.some.injEq]

theorem check?_eq_none_iff {n : Int} : check? n = none ↔ ¬InRange n := by
  rw [check?, ite_eq_right_iff]
  exact imp_congr_right fun _ => by simp

/-! ## Ends of the range -/

theorem inRange_saturate (n : Int) : InRange (saturate n) := by
  unfold InRange saturate least greatest
  split
  · omega
  · split <;> omega

theorem saturate_eq_self {n : Int} (h : InRange n) : saturate n = n := by
  unfold InRange at h
  unfold saturate
  rw [if_neg (by omega), if_neg (by omega)]

theorem ofLength_eq_self {length : Nat} (h : InRange length) : ofLength length = length :=
  saturate_eq_self h

/-- A number keeps its sign at the ends of the range. -/
@[simp]
theorem saturate_pos_iff {n : Int} : 0 < saturate n ↔ 0 < n := by
  unfold saturate least greatest
  split
  · omega
  · split <;> omega

theorem saturate_eq_max_min (n : Int) : saturate n = max least (min greatest n) := by
  unfold saturate least greatest
  omega

/-- A number that moves on by a step, and stops at the ends of the range, is after so many steps
where it would be without stopping, or at the nearest end. -/
theorem saturate_add_steps {first : Int} (hfirst : InRange first) (count : Nat)
    (step : Int) :
    saturate (saturate (first + count * step) + step) =
      saturate (first + (count + 1 : Nat) * step) := by
  have hnext : first + ((count + 1 : Nat) : Int) * step = first + count * step + step := by
    rw [Int.natCast_add, Int.natCast_one, Int.add_mul, Int.one_mul, Int.add_assoc]
  -- All steps have one sign, so beyond an end of the range the number stays beyond it.
  have hsign : 0 ≤ step ∧ 0 ≤ count * step ∨ step ≤ 0 ∧ count * step ≤ 0 := by
    rcases Int.le_total 0 step with hstep | hstep
    · exact Or.inl ⟨hstep, Int.mul_nonneg (Int.natCast_nonneg count) hstep⟩
    · exact Or.inr ⟨hstep, Int.mul_nonpos_of_nonneg_of_nonpos (Int.natCast_nonneg count) hstep⟩
  rw [hnext]
  generalize count * step = past at hsign
  simp only [saturate_eq_max_min, InRange] at hfirst ⊢
  omega

end Specimen.Integer
