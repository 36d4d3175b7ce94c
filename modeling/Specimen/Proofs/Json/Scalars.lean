import Mathlib.Data.List.TakeWhile
import Specimen.Json.Printer
import Specimen.Json.Reader
import Specimen.Proofs.Text.Digits

set_option autoImplicit false

/-!
# Scalars that are read back

A scalar is read from its compact form, whatever follows it, as long as that does not carry a number
on. Integers must be such that sixty-four bits can hold them, signed or unsigned, and a text may
have any characters, because those that cannot stand for themselves are escaped.

## Main definitions

* `Specimen.Json.EndsNumber`, `Specimen.Json.IsSpaces` — what can follow a number, and spaces.
* `Specimen.Json.IsExact`, `Specimen.Json.HasExactNumbers` — integers that sixty-four bits can hold,
  and values with such numbers.
* `Specimen.Json.Reads` — a reader takes a text for a value, whatever follows.

## Main results

* `Specimen.Json.readNumber_integerText` — an integer is read from its numeral.
* `Specimen.Json.readText_flatMap_escape` — a text is read from its written form.
* `Specimen.Json.reads_scalar` — a scalar is read from its compact form.
-/

namespace Specimen.Json

open Specimen.Integer (isDigit ofDigits)

/-! ## Spaces, and what ends a number -/

/-- What does not carry a number on. -/
def EndsNumber (rest : List Char) : Prop :=
  ∀ c, rest.head? = some c → isDigit c = false ∧ c ≠ '.' ∧ c ≠ 'e' ∧ c ≠ 'E'

/-- Spaces only. -/
def IsSpaces (text : List Char) : Prop := ∀ c ∈ text, isSpace c = true

/-- The first character decides. -/
theorem endsNumber_cons {c : Char} (h : isDigit c = false ∧ c ≠ '.' ∧ c ≠ 'e' ∧ c ≠ 'E')
    (rest : List Char) : EndsNumber (c :: rest) := by
  intro d hd
  obtain rfl : c = d := by simpa using hd
  exact h

/-- Spaces end a number; without any, what is behind them does. -/
theorem IsSpaces.endsNumber {spaces : List Char} (h : IsSpaces spaces) {rest : List Char}
    (hrest : EndsNumber rest) : EndsNumber (spaces ++ rest) := by
  cases spaces with
  | nil => exact hrest
  | cons c spaces =>
    refine endsNumber_cons ?_ _
    have hc := h c (List.mem_cons_self ..)
    simp only [isSpace, Bool.or_eq_true, beq_iff_eq] at hc
    rcases hc with ((rfl | rfl) | rfl) | rfl <;> decide

/-- Spaces are skipped together with those behind them. -/
theorem IsSpaces.skipSpaces {spaces : List Char} (h : IsSpaces spaces) (rest : List Char) :
    skipSpaces (spaces ++ rest) = Json.skipSpaces rest := by
  rw [Json.skipSpaces, List.dropWhile_append_of_pos h]
  rfl

/-! ## Numbers -/

/-- The digits in front of what ends a number are read together. -/
theorem takeWhile_isDigit {digits rest : List Char} (hdigits : ∀ c ∈ digits, isDigit c = true)
    (hrest : EndsNumber rest) :
    (digits ++ rest).takeWhile isDigit = digits ∧ (digits ++ rest).dropWhile isDigit = rest :=
  Text.takeWhile_run hdigits fun c hc => (hrest c hc).1

theorem readFraction_of_endsNumber {rest : List Char} (h : EndsNumber rest) :
    readFraction rest = some ([], rest) := by
  unfold readFraction
  split
  · exact absurd rfl (h _ rfl).2.1
  · rfl

theorem readPower_of_endsNumber {rest : List Char} (h : EndsNumber rest) :
    readPower rest = some (none, rest) := by
  cases rest with
  | nil => rfl
  | cons c rest =>
    obtain ⟨-, -, hsmall, hlarge⟩ := h c rfl
    simp [readPower, hsmall, hlarge]

/-- What sixty-four bits can hold, signed or unsigned. -/
def IsExact (n : Int) : Prop := Integer.least ≤ n ∧ n ≤ greatestInt

instance (n : Int) : Decidable (IsExact n) :=
  inferInstanceAs (Decidable (Integer.least ≤ n ∧ n ≤ greatestInt))

/-- Digits are read as an integer, with the sign in front of them. Only a zero has no minus sign,
because a negative zero is a floating-point number. -/
theorem readUnsigned_toDigits {negative : Bool} {n : Nat} {value : Int}
    (hvalue : value = if negative then -(n : Int) else n) (hzero : negative = true → n ≠ 0)
    (hrange : IsExact value) {rest : List Char} (hrest : EndsNumber rest) :
    readUnsigned negative (Nat.toDigits 10 n ++ rest) = some (.int value, rest) := by
  obtain ⟨htake, hdrop⟩ := takeWhile_isDigit
    (fun c hc => Integer.isDigit_of_mem_toDigits (n := n) hc) hrest
  have hleading : ¬(Nat.toDigits 10 n = [] ∨
      ((Nat.toDigits 10 n).head? = some '0' ∧ Nat.toDigits 10 n ≠ ['0'])) := by
    rintro (hnil | ⟨hhead, hne⟩)
    · exact Nat.toDigits_ne_nil hnil
    · by_cases hn : n = 0
      · subst hn
        exact hne (Nat.toDigits_zero 10)
      · exact Integer.head?_toDigits hn hhead
  have hnegative : ¬(negative = true ∧ value = 0) := by
    rintro ⟨rfl, hvalue0⟩
    have hn := hzero rfl
    simp only [if_true] at hvalue
    omega
  have hparts : ofParts? negative (Nat.toDigits 10 n) [] none = some (.int value) := by
    rw [ofParts?, Integer.ofDigits_toDigits, ← hvalue, if_pos ⟨rfl, rfl, hnegative, hrange⟩]
  simp only [readUnsigned, htake, hdrop, if_neg hleading, readFraction_of_endsNumber hrest,
    readPower_of_endsNumber hrest, hparts, Option.bind_eq_bind, Option.bind_some]

theorem integerText_eq (n : Int) :
    integerText n =
      if n < 0 then '-' :: Nat.toDigits 10 n.natAbs else Nat.toDigits 10 n.natAbs := by
  rw [integerText, Decimal.natDigits, Nat.toString_eq_repr, Nat.toList_repr]

/-- The digits of a number begin with a digit. -/
theorem exists_toDigits (n : Nat) :
    ∃ c digits, Nat.toDigits 10 n = c :: digits ∧ isDigit c = true := by
  obtain ⟨c, digits, hdigits⟩ :=
    List.exists_cons_of_ne_nil (Nat.toDigits_ne_nil : Nat.toDigits 10 n ≠ [])
  have hmem : c ∈ Nat.toDigits 10 n := hdigits ▸ List.mem_cons_self ..
  exact ⟨c, digits, hdigits, Integer.isDigit_of_mem_toDigits hmem⟩

/-- The numeral of an integer begins with a digit or a sign. -/
theorem exists_integerText (n : Int) :
    ∃ c digits, integerText n = c :: digits ∧ (isDigit c = true ∨ c = '-') := by
  rw [integerText_eq]
  split
  · exact ⟨_, _, rfl, Or.inr rfl⟩
  · obtain ⟨c, digits, hdigits, hc⟩ := exists_toDigits n.natAbs
    exact ⟨c, digits, hdigits, Or.inl hc⟩

/-- **An integer is read from its numeral.** -/
theorem readNumber_integerText {n : Int} (hrange : IsExact n) {rest : List Char}
    (hrest : EndsNumber rest) : readNumber (integerText n ++ rest) = some (.int n, rest) := by
  rw [integerText_eq]
  split
  · rename_i hneg
    rw [List.cons_append, readNumber,
      readUnsigned_toDigits (by rw [if_pos rfl]; omega) (by omega) hrange hrest]
  · have hsign : ∀ more, Nat.toDigits 10 n.natAbs ++ rest ≠ '-' :: more := by
      intro more heq
      obtain ⟨c, digits, hdigits, hc⟩ := exists_toDigits n.natAbs
      rw [hdigits] at heq
      rw [(List.cons.inj heq).1] at hc
      cases hc
    have hvalue : n = if false = true then -(n.natAbs : Int) else n.natAbs := by
      rw [if_neg Bool.false_ne_true]
      omega
    rw [readNumber.eq_2 _ hsign, readUnsigned_toDigits hvalue nofun hrange hrest]

/-! ## Texts -/

/-- The written form of a character is read as the character. -/
theorem readText_escape (c : Char) (more : List Char) :
    readText (escape c ++ more) = (readText more).map fun (text, rest) => (c :: text, rest) := by
  unfold escape
  split
  · subst_vars; rfl
  split
  · subst_vars; rfl
  split
  · subst_vars; rfl
  split
  · subst_vars; rfl
  split
  · subst_vars; rfl
  split
  · subst_vars; rfl
  split
  · subst_vars; rfl
  split
  · -- The other control characters are written with their number in four digits.
    rename_i hsmall
    have hcode : ∀ n < 0x20,
        hexValue4? '0' '0' (hexDigit (n / 16)) (hexDigit (n % 16)) = some n ∧
          isHighUnit n = false ∧ isLowUnit n = false := by decide
    obtain ⟨hvalue, hhigh, hlow⟩ := hcode c.toNat hsmall
    simp only [List.cons_append, List.nil_append, readText, hvalue, hhigh, hlow,
      Char.ofNat_toNat, Bool.false_eq_true, if_false]
  · rename_i hquote hslash _ _ _ _ _ hsmall
    rw [List.cons_append, List.nil_append, readText.eq_5, if_neg (not_or.2 ⟨hsmall, hslash⟩)]
    · rintro rfl
      exact hquote rfl
    · rintro a b d e f rfl
      exact absurd rfl hslash
    · rintro letter rest rfl
      exact absurd rfl hslash

/-- **A text is read from its written form**, up to the closing quotation mark. -/
theorem readText_flatMap_escape (text rest : List Char) :
    readText (text.flatMap escape ++ '"' :: rest) = some (text, rest) := by
  induction text with
  | nil => rfl
  | cons c text ih =>
    rw [List.flatMap_cons, List.append_assoc, readText_escape, ih]
    rfl

/-! ## Scalars -/

/-- A reader takes a text for a value, whatever follows that ends a number. The text begins with a
character that is neither a space nor a closing bracket. -/
structure Reads (reader : ValueReader) (text : List Char) (value : Json) : Prop where
  /-- The first character. -/
  opens : ∃ c more, text = c :: more ∧ isSpace c = false ∧ c ≠ ']'
  /-- The value. -/
  reads : ∀ rest, EndsNumber rest → reader (text ++ rest) = some (value, rest)

theorem Reads.ne_nil {reader : ValueReader} {text : List Char} {value : Json}
    (h : Reads reader text value) : text ≠ [] := by
  obtain ⟨c, more, rfl, -⟩ := h.opens
  exact List.cons_ne_nil _ _

/-- In front of a value no spaces are skipped. -/
theorem Reads.skipSpaces {reader : ValueReader} {text : List Char} {value : Json}
    (h : Reads reader text value) (rest : List Char) :
    skipSpaces (text ++ rest) = text ++ rest := by
  obtain ⟨c, more, rfl, hspace, -⟩ := h.opens
  rw [List.cons_append, Json.skipSpaces, List.dropWhile_cons_of_neg (by simp [hspace])]

/-- Numbers are integers that sixty-four bits can hold. -/
def HasExactNumbers : Json → Prop
  | .num (.int n) => IsExact n
  | .num (.float _) => False
  | _ => True

instance : DecidablePred HasExactNumbers
  | .num (.int n) => inferInstanceAs (Decidable (IsExact n))
  | .num (.float _) => isFalse id
  | .null | .bool _ | .str _ | .arr _ | .obj _ => isTrue trivial

/-- What begins with neither a bracket nor a brace is a scalar, at whatever depth it stands. -/
theorem readValue_cons {c : Char} (harr : c ≠ '[') (hobj : c ≠ '{') (depth : Nat)
    (text : List Char) : readValue depth (c :: text) = readScalar (c :: text) := by
  cases depth with
  | zero => rfl
  | succ depth =>
    rw [readValue.eq_4]
    · intro rest heq
      exact harr (List.cons.inj heq).1
    · intro rest heq
      exact hobj (List.cons.inj heq).1

/-- What begins a number begins nothing else. -/
theorem of_beginsNumber {c : Char} (h : isDigit c = true ∨ c = '-') :
    isSpace c = false ∧ c ∉ ['[', ']', '{', 'n', 't', 'f', '"'] := by
  constructor
  · by_contra hspace
    simp only [isSpace, Bool.not_eq_false, Bool.or_eq_true, beq_iff_eq] at hspace
    rcases hspace with ((rfl | rfl) | rfl) | rfl <;> revert h <;> decide
  · intro hmem
    simp only [List.mem_cons, List.not_mem_nil, or_false] at hmem
    rcases hmem with rfl | rfl | rfl | rfl | rfl | rfl | rfl <;> revert h <;> decide

/-- What begins like a number is read as a number. -/
theorem readScalar_cons {c : Char} (h : isDigit c = true ∨ c = '-') (text : List Char) :
    readScalar (c :: text) =
      (readNumber (c :: text)).map fun (number, rest) => (.num number, rest) := by
  obtain ⟨-, hmem⟩ := of_beginsNumber h
  rw [readScalar.eq_5]
  all_goals
    intro rest heq
    obtain ⟨rfl, -⟩ := List.cons.inj heq
    exact hmem (by decide)

/-- An integer is read from its compact form. -/
theorem reads_int {n : Int} (h : IsExact n) (depth : Nat) :
    Reads (readValue depth) (compact (.num (.int n))) (.num (.int n)) := by
  obtain ⟨c, digits, htext, hc⟩ := exists_integerText n
  obtain ⟨hspace, hmem⟩ := of_beginsNumber hc
  have hwritten : compact (.num (.int n)) = c :: digits := htext
  rw [hwritten]
  refine ⟨⟨c, digits, rfl, hspace, ?_⟩, fun rest hrest => ?_⟩
  · rintro rfl
    exact hmem (by decide)
  · have hread := readNumber_integerText h hrest
    rw [htext, List.cons_append] at hread
    rw [List.cons_append, readValue_cons, readScalar_cons hc, hread]
    · rfl
    all_goals
      rintro rfl
      exact hmem (by decide)

/-- **A scalar is read from its compact form.** -/
theorem reads_scalar {value : Json} (hscalar : value.depth = 0) (hnumber : value.HasExactNumbers)
    (depth : Nat) : Reads (readValue depth) (compact value) value := by
  cases value with
  | null =>
    refine ⟨⟨_, _, rfl, by decide, by decide⟩, fun rest _ => ?_⟩
    exact readValue_cons (by decide) (by decide) depth _
  | bool value =>
    cases value with
    | true =>
      refine ⟨⟨_, _, rfl, by decide, by decide⟩, fun rest _ => ?_⟩
      exact readValue_cons (by decide) (by decide) depth _
    | false =>
      refine ⟨⟨_, _, rfl, by decide, by decide⟩, fun rest _ => ?_⟩
      exact readValue_cons (by decide) (by decide) depth _
  | num number =>
    cases number with
    | int n => exact reads_int hnumber depth
    | float => exact hnumber.elim
  | str text =>
    refine ⟨⟨_, _, rfl, by decide, by decide⟩, fun rest _ => ?_⟩
    rw [compact, quote, List.cons_append, readValue_cons (by decide) (by decide), readScalar,
      List.append_assoc, List.cons_append, List.nil_append, readText_flatMap_escape]
    simp
  | arr items => cases hscalar
  | obj members => cases hscalar

end Specimen.Json
