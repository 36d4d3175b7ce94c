import Mathlib.Data.List.TakeWhile
import Specimen.Pattern.Synthesis
import Specimen.Proofs.Random.Draws
import Specimen.Proofs.Rule.Grammar

set_option autoImplicit false

/-!
# Classes and quantifiers as written

A quantifier is one row of digits between braces, or two with a comma between them, where digits of
all scripts count. It sets bounds when its rows are ASCII numerals up to the limit of repetitions.
A quantifier is read at the front of a text exactly when one is written there, and a class of
characters stands for a range of ASCII characters, or some of them.

## Main definitions

* `Specimen.Pattern.CharClass.Accepts` — the characters that a class stands for.
* `Specimen.Pattern.Quantifier.text`, `Specimen.Pattern.Quantifier.IsProper` — how quantifiers are
  written.
* `Specimen.Pattern.Quantifier.Bounds` — the bounds that a quantifier sets.

## Main results

* `Specimen.Pattern.occurs_iff` — looking for a text finds it where it stands.
* `Specimen.Pattern.Quantifier.at?_eq_some_iff` — the quantifier that is read.
* `Specimen.Pattern.Quantifier.bounds?_eq_some_iff` — the bounds that are read.
-/

namespace Specimen.Pattern

/-! ## Looking for texts -/

/-- **A text is found** exactly when it stands somewhere. -/
theorem occurs_iff {needle text : List Char} : occurs needle text = true ↔ needle <:+: text := by
  induction text with
  | nil => rw [occurs, List.isEmpty_iff, List.infix_nil]
  | cons c rest ih =>
    rw [occurs, Bool.or_eq_true, List.isPrefixOf_iff_prefix, ih, List.infix_cons_iff]

/-! ## Classes -/

namespace CharClass

/-- The characters that a class stands for. -/
def Accepts : CharClass → Char → Prop
  | .digit, c | .number, c => '0' ≤ c ∧ c ≤ '9'
  | .lower, c => 'a' ≤ c ∧ c ≤ 'z'
  | .upper, c => 'A' ≤ c ∧ c ≤ 'Z'
  | .word, c => ('a' ≤ c ∧ c ≤ 'z') ∨ ('A' ≤ c ∧ c ≤ 'Z') ∨ ('0' ≤ c ∧ c ≤ '9') ∨ c = '_'

instance : (charClass : CharClass) → DecidablePred charClass.Accepts
  | .digit, _ | .number, _ | .lower, _ | .upper, _ => inferInstanceAs (Decidable (_ ∧ _))
  | .word, _ => inferInstanceAs (Decidable (_ ∨ _ ∨ _ ∨ _))

/-- The pool of a class has characters that it stands for. -/
theorem accepts_of_mem_pool {charClass : CharClass} {c : Char} (h : c ∈ charClass.pool) :
    charClass.Accepts c := by
  have hall : (charClass.pool.all fun c => decide (charClass.Accepts c)) = true := by
    cases charClass <;> decide
  exact of_decide_eq_true (List.all_eq_true.1 hall c h)

theorem pool_ne_nil (charClass : CharClass) : charClass.pool ≠ [] := by
  cases charClass <;> decide

end CharClass

/-! ## Quantifiers -/

namespace Quantifier

/-- How a quantifier is written behind its opening brace. -/
def inner (q : Quantifier) : List Char :=
  match q.high with
  | none => q.low ++ ['}']
  | some high => q.low ++ ',' :: (high ++ ['}'])

/-- How a quantifier is written. -/
def text (q : Quantifier) : List Char := '{' :: q.inner

/-- A row of decimal digits, of any script. -/
def IsRow (digits : List Char) : Prop := digits ≠ [] ∧ ∀ c ∈ digits, Text.isDecimalDigit c = true

/-- One row of digits, or two. -/
def IsProper (q : Quantifier) : Prop := IsRow q.low ∧ ∀ high ∈ q.high, IsRow high

theorem length_text (q : Quantifier) : q.text.length = q.width := by
  obtain ⟨low, _ | high⟩ := q
  · simp [text, inner, width]
  · simp [text, inner, width]
    omega

/-- A row that is read stands at the front of the text. -/
theorem isRow_takeWhile {text : List Char} (h : text.takeWhile Text.isDecimalDigit ≠ []) :
    IsRow (text.takeWhile Text.isDecimalDigit) :=
  ⟨h, fun _ => List.mem_takeWhile_imp⟩

/-- A row before another character is read to its end. -/
theorem IsRow.read {digits : List Char} (h : IsRow digits) {stop : Char}
    (hstop : Text.isDecimalDigit stop = false) (rest : List Char) :
    (digits ++ stop :: rest).takeWhile Text.isDecimalDigit = digits ∧
      (digits ++ stop :: rest).dropWhile Text.isDecimalDigit = stop :: rest := by
  refine Text.takeWhile_run h.2 fun c hc => ?_
  obtain rfl : stop = c := by simpa using hc
  exact hstop

/-- Digits and what stands behind them are the text. -/
theorem takeWhile_append_cons {text after : List Char} {stop : Char}
    (h : text.dropWhile Text.isDecimalDigit = stop :: after) :
    text.takeWhile Text.isDecimalDigit ++ stop :: after = text := by
  rw [← h, List.takeWhile_append_dropWhile]

/-- **The quantifier that is read** is the one that is written at the front of the text.

**Proof sketch.** A row of digits ends at the comma or the brace, which are no digits. So the rows
that are read are those that are written. -/
theorem at?_eq_some_iff {text : List Char} {q : Quantifier} :
    at? text = some q ↔ q.IsProper ∧ q.text <+: text := by
  constructor
  · fun_cases at? text with
    | case2 rest low hlow after hdrop =>
      -- One row of digits.
      rintro ⟨⟩
      refine ⟨⟨isRow_takeWhile hlow, nofun⟩, after, ?_⟩
      simpa [Quantifier.text, inner] using takeWhile_append_cons hdrop
    | case4 rest low hlow second hdrop high hhigh after hdrop' =>
      -- Two rows of digits.
      rintro ⟨⟩
      refine ⟨⟨isRow_takeWhile hlow, ?_⟩, after, ?_⟩
      · rintro _ ⟨⟩
        exact isRow_takeWhile hhigh
      · have hsecond := takeWhile_append_cons hdrop'
        have hrest := takeWhile_append_cons hdrop
        rw [← hsecond] at hrest
        simpa [Quantifier.text, inner] using hrest
    | _ => nofun
  · rintro ⟨⟨hlow, hhigh⟩, after, rfl⟩
    obtain ⟨low, _ | high⟩ := q
    · obtain ⟨htake, hdrop⟩ := hlow.read (by decide : Text.isDecimalDigit '}' = false) after
      simp [at?, Quantifier.text, inner, htake, hdrop, hlow.1]
    · have hsecond : IsRow high := hhigh high rfl
      obtain ⟨htake, hdrop⟩ := hlow.read (by decide : Text.isDecimalDigit ',' = false)
        (high ++ '}' :: after)
      obtain ⟨htake', hdrop'⟩ := hsecond.read (by decide : Text.isDecimalDigit '}' = false) after
      simp [at?, Quantifier.text, inner, htake, hdrop, htake', hdrop', hlow.1, hsecond.1]

/-! ## Bounds -/

/-- An ASCII numeral of a number up to the limit of repetitions. -/
def IsBound (digits : List Char) (n : Nat) : Prop :=
  Integer.Digits digits n ∧ n ≤ maxRepeat.toNat

/-- The bounds that a quantifier sets. -/
inductive Bounds : Quantifier → Nat → Nat → Prop
  /-- One row is both bounds. -/
  | one {digits : List Char} {n : Nat} : IsBound digits n → Bounds ⟨digits, none⟩ n n
  /-- Of two rows each is a bound. -/
  | two {first second : List Char} {low high : Nat} : IsBound first low → IsBound second high →
    Bounds ⟨first, some second⟩ low high

theorem quantity?_eq_some_iff {digits : List Char} {n : Nat} :
    quantity? digits = some n ↔ IsBound digits n := by
  simp only [quantity?, Option.bind_eq_bind, Option.bind_eq_some_iff,
    Option.ite_none_right_eq_some, Option.some.injEq, Integer.readNat?_eq_some_iff, IsBound]
  constructor
  · rintro ⟨m, hdigits, hle, rfl⟩
    exact ⟨hdigits, hle⟩
  · rintro ⟨hdigits, hle⟩
    exact ⟨n, hdigits, hle, rfl⟩

/-- **The bounds that are read** are those that the quantifier sets. -/
theorem bounds?_eq_some_iff {q : Quantifier} {low high : Nat} :
    q.bounds? = some (low, high) ↔ q.Bounds low high := by
  obtain ⟨first, _ | second⟩ := q
  · simp only [bounds?, Option.bind_eq_bind, Option.bind_eq_some_iff, Option.some.injEq,
      Prod.mk.injEq, quantity?_eq_some_iff]
    constructor
    · rintro ⟨n, hn, rfl, rfl⟩
      exact .one hn
    · rintro (hn | -)
      exact ⟨_, hn, rfl, rfl⟩
  · simp only [bounds?, Option.bind_eq_bind, Option.bind_eq_some_iff, Option.map_eq_some_iff,
      Prod.mk.injEq, quantity?_eq_some_iff]
    constructor
    · rintro ⟨n, hn, m, hm, rfl, rfl⟩
      exact .two hn hm
    · rintro (- | ⟨hn, hm⟩)
      exact ⟨_, hn, _, hm, rfl, rfl⟩

/-- Bounds are at most the limit of repetitions. -/
theorem Bounds.le {q : Quantifier} {low high : Nat} (h : q.Bounds low high) :
    low ≤ maxRepeat.toNat ∧ high ≤ maxRepeat.toNat := by
  cases h with
  | one hn => exact ⟨hn.2, hn.2⟩
  | two hlow hhigh => exact ⟨hlow.2, hhigh.2⟩

end Quantifier

/-- Bounds are numbers in range. -/
theorem inRange_of_le_maxRepeat {n : Nat} (h : n ≤ maxRepeat.toNat) : Integer.InRange n := by
  unfold maxRepeat at h
  unfold Integer.InRange Integer.least Integer.greatest
  omega

end Specimen.Pattern
