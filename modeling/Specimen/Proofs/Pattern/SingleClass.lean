import Specimen.Proofs.Pattern.Quantifier

set_option autoImplicit false

/-!
# Patterns of one class

A pattern that is neither one of mail addresses nor one of both cases gives characters of one class:
the first class, in a fixed order, that stands in it. How many is said by the quantifier behind the
class, where the class first has one, or else by the first quantifier of the pattern, wherever it
stands. A quantifier whose rows are no bounds leaves the number to the default.

## Main definitions

* `Specimen.Pattern.Quantifier.IsFirst` — the first quantifier that stands behind a text.
* `Specimen.Pattern.Governs` — the bounds that govern a class in a pattern.

## Main results

* `Specimen.Pattern.Quantifier.firstBehind?_eq_some_iff` — the quantifier that is found.
* `Specimen.Pattern.governs_iff` — there is exactly one pair of bounds.
* `Specimen.Pattern.gives_synthesize_class` — what is drawn for a pattern of one class.
-/

namespace Specimen.Pattern

/-! ## The first quantifier behind a text -/

namespace Quantifier

/-- Of all quantifiers that stand directly behind the lead, this is the first in the pattern. -/
def IsFirst (lead : List Char) (q : Quantifier) (pattern : List Char) : Prop :=
  q.IsProper ∧ ∃ before, before ++ (lead ++ q.text) <+: pattern ∧
    ∀ (other : Quantifier) (place : List Char), other.IsProper →
      place ++ (lead ++ other.text) <+: pattern → before.length ≤ place.length

/-- The quantifier directly behind the lead, with both at the front of a text. -/
def behind? (lead text : List Char) : Option Quantifier :=
  if lead.isPrefixOf text then at? (text.drop lead.length) else none

/-- The first quantifier of a text that stands directly behind the lead. -/
def firstBehind? (lead : List Char) : List Char → Option Quantifier
  | [] => none
  | c :: rest => behind? lead (c :: rest) <|> firstBehind? lead rest

theorem behind?_eq_some_iff {lead text : List Char} {q : Quantifier} :
    behind? lead text = some q ↔ q.IsProper ∧ lead ++ q.text <+: text := by
  rw [behind?, Option.ite_none_right_eq_some, List.isPrefixOf_iff_prefix]
  constructor
  · rintro ⟨⟨rest, rfl⟩, h⟩
    rw [List.drop_left, at?_eq_some_iff] at h
    exact ⟨h.1, (List.prefix_append_right_inj lead).2 h.2⟩
  · rintro ⟨hproper, after, rfl⟩
    rw [List.append_assoc, List.drop_left, at?_eq_some_iff]
    exact ⟨List.prefix_append .., hproper, List.prefix_append ..⟩

theorem behind?_eq_none_iff {lead text : List Char} :
    behind? lead text = none ↔ ∀ q : Quantifier, q.IsProper → ¬lead ++ q.text <+: text := by
  simp only [Option.eq_none_iff_forall_ne_some, ne_eq, behind?_eq_some_iff, not_and]

/-- Nothing stands at the front of a text: what stands in it stands in its rest. -/
theorem isFirst_cons_iff {lead rest : List Char} {c : Char} {q : Quantifier}
    (h : ∀ other : Quantifier, other.IsProper → ¬lead ++ other.text <+: c :: rest) :
    q.IsFirst lead (c :: rest) ↔ q.IsFirst lead rest := by
  constructor
  · rintro ⟨hproper, before, hbefore, hfirst⟩
    cases before with
    | nil => exact absurd hbefore (h q hproper)
    | cons b before =>
      obtain ⟨rfl, hrest⟩ := List.cons_prefix_cons.1 hbefore
      refine ⟨hproper, before, hrest, fun other place hother hplace => ?_⟩
      have hle := hfirst other (b :: place) hother (List.cons_prefix_cons.2 ⟨rfl, hplace⟩)
      exact Nat.le_of_succ_le_succ hle
  · rintro ⟨hproper, before, hbefore, hfirst⟩
    refine ⟨hproper, c :: before, List.cons_prefix_cons.2 ⟨rfl, hbefore⟩, ?_⟩
    intro other place hother hplace
    cases place with
    | nil => exact absurd hplace (h other hother)
    | cons d place =>
      have hle := hfirst other place hother (List.cons_prefix_cons.1 hplace).2
      exact Nat.succ_le_succ hle

/-- **The quantifier that is found** is the first one. -/
theorem firstBehind?_eq_some_iff {lead text : List Char} {q : Quantifier} :
    firstBehind? lead text = some q ↔ q.IsFirst lead text := by
  induction text with
  | nil =>
    constructor
    · rintro ⟨⟩
    · rintro ⟨-, before, hbefore, -⟩
      have hnil := List.prefix_nil.1 hbefore
      simp [Quantifier.text] at hnil
  | cons c rest ih =>
    cases hfront : behind? lead (c :: rest) with
    | none =>
      rw [firstBehind?, hfront, isFirst_cons_iff (behind?_eq_none_iff.1 hfront)]
      exact ih
    | some found =>
      obtain ⟨hproper, hfound⟩ := behind?_eq_some_iff.1 hfront
      rw [firstBehind?, hfront]
      constructor
      · rintro ⟨⟩
        exact ⟨hproper, [], hfound, fun _ _ _ _ => Nat.zero_le _⟩
      · rintro ⟨hq, before, hbefore, hfirst⟩
        have hle := hfirst found [] hproper hfound
        obtain rfl := List.eq_nil_of_length_eq_zero (Nat.le_zero.1 hle)
        exact hfront.symm.trans (behind?_eq_some_iff.2 ⟨hq, hbefore⟩)

/-- None is found exactly when none stands there. -/
theorem firstBehind?_eq_none_iff {lead text : List Char} :
    firstBehind? lead text = none ↔
      ∀ q : Quantifier, q.IsProper → ¬lead ++ q.text <:+: text := by
  induction text with
  | nil => simp [firstBehind?, Quantifier.text]
  | cons c rest ih =>
    have hcons : firstBehind? lead (c :: rest) = none ↔
        behind? lead (c :: rest) = none ∧ firstBehind? lead rest = none :=
      Option.orElse_eq_none ..
    rw [hcons, behind?_eq_none_iff, ih]
    simp only [List.infix_cons_iff, not_or, forall_and]

theorem first?_eq (text : List Char) : first? text = firstBehind? [] text := by
  induction text with
  | nil => rfl
  | cons c rest ih =>
    rw [first?, firstBehind?, ih]
    rfl

/-- What a quantifier says of a number: its bounds, or the default when it sets none. -/
def Sets (q : Quantifier) (bounds : Nat × Nat) : Prop :=
  q.Bounds bounds.1 bounds.2 ∨ (∀ low high, ¬q.Bounds low high) ∧ bounds = defaultLength

theorem sets_iff {q : Quantifier} {bounds : Nat × Nat} :
    q.Sets bounds ↔ bounds = q.bounds?.getD defaultLength := by
  unfold Sets
  cases hbounds : q.bounds? with
  | none =>
    have hnone : ∀ low high, ¬q.Bounds low high := by
      intro low high h
      rw [← bounds?_eq_some_iff, hbounds] at h
      cases h
    simp [hnone]
  | some found =>
    obtain ⟨low, high⟩ := found
    have hsome := bounds?_eq_some_iff.1 hbounds
    constructor
    · rintro (h | ⟨hnone, -⟩)
      · exact Option.some.inj ((bounds?_eq_some_iff.2 h).symm.trans hbounds)
      · exact absurd hsome (hnone low high)
    · rintro rfl
      exact .inl hsome

end Quantifier

theorem attached?_eq (c : CharClass) (text : List Char) :
    attached? c text = Quantifier.firstBehind? c.text text := by
  induction text with
  | nil => rfl
  | cons x rest ih =>
    rw [attached?, Quantifier.firstBehind?, ih]
    rfl

/-! ## The bounds of a class -/

/-- The bounds that govern a class in a pattern. -/
inductive Governs (pattern : List Char) (c : CharClass) : Nat × Nat → Prop
  /-- The class has quantifiers behind it: the first of them counts. -/
  | attached {q : Quantifier} {bounds : Nat × Nat} (hfirst : q.IsFirst c.text pattern)
      (hsets : q.Sets bounds) : Governs pattern c bounds
  /-- It has none, but the pattern has quantifiers: the first of them counts. -/
  | anywhere {q : Quantifier} {bounds : Nat × Nat}
      (hnone : ∀ other : Quantifier, other.IsProper → ¬c.text ++ other.text <:+: pattern)
      (hfirst : q.IsFirst [] pattern) (hsets : q.Sets bounds) : Governs pattern c bounds
  /-- The pattern has no quantifiers at all. -/
  | nowhere (hnone : ∀ other : Quantifier, other.IsProper → ¬other.text <:+: pattern) :
      Governs pattern c defaultLength

/-- **Exactly one pair of bounds governs a class.**

**Proof sketch.** The bounds are set by the first quantifier directly behind the class, else by the
first one anywhere, and else they are the usual ones. Each case rules out the others, and the search
follows the same order. -/
theorem governs_iff {pattern : List Char} {c : CharClass} {bounds : Nat × Nat} :
    Governs pattern c bounds ↔ bounds = lengthFor pattern c := by
  rw [lengthFor, attached?_eq, Quantifier.first?_eq]
  constructor
  · rintro (⟨hfirst, hsets⟩ | ⟨hnone, hfirst, hsets⟩ | hnone)
    · rw [Quantifier.firstBehind?_eq_some_iff.2 hfirst]
      exact Quantifier.sets_iff.1 hsets
    · rw [Quantifier.firstBehind?_eq_none_iff.2 hnone, Quantifier.firstBehind?_eq_some_iff.2 hfirst]
      exact Quantifier.sets_iff.1 hsets
    · have hattached : ∀ q : Quantifier, q.IsProper → ¬c.text ++ q.text <:+: pattern :=
        fun q hq hinfix => hnone q hq ((List.suffix_append ..).isInfix.trans hinfix)
      rw [Quantifier.firstBehind?_eq_none_iff.2 hattached,
        Quantifier.firstBehind?_eq_none_iff.2 hnone]
      rfl
  · rintro rfl
    cases hattached : Quantifier.firstBehind? c.text pattern with
    | some q =>
      exact .attached (Quantifier.firstBehind?_eq_some_iff.1 hattached) (Quantifier.sets_iff.2 rfl)
    | none =>
      have hnone := Quantifier.firstBehind?_eq_none_iff.1 hattached
      cases hfirst : Quantifier.firstBehind? [] pattern with
      | some q =>
        exact .anywhere hnone (Quantifier.firstBehind?_eq_some_iff.1 hfirst)
          (Quantifier.sets_iff.2 rfl)
      | none => exact .nowhere (Quantifier.firstBehind?_eq_none_iff.1 hfirst)

/-- Bounds that govern a class are at most the limit of repetitions. -/
theorem Governs.le {pattern : List Char} {c : CharClass} {bounds : Nat × Nat}
    (h : Governs pattern c bounds) :
    bounds.1 ≤ maxRepeat.toNat ∧ bounds.2 ≤ maxRepeat.toNat := by
  have hdefault : defaultLength.1 ≤ maxRepeat.toNat ∧ defaultLength.2 ≤ maxRepeat.toNat := by decide
  have hsets : ∀ {q : Quantifier} {bounds : Nat × Nat}, q.Sets bounds →
      bounds.1 ≤ maxRepeat.toNat ∧ bounds.2 ≤ maxRepeat.toNat := by
    rintro q bounds (hbounds | ⟨-, rfl⟩)
    · exact hbounds.le
    · exact hdefault
  cases h with
  | attached _ h => exact hsets h
  | anywhere _ _ h => exact hsets h
  | nowhere => exact hdefault

/-! ## Patterns of one class -/

section OneClass

variable {pattern : List Char} {c : CharClass} {earlier later : List CharClass}
  (hmail : ¬('@' ∈ pattern ∧ ['\\', '.'] <:+: pattern))
  (hcases : ¬(CharClass.upper.text <:+: pattern ∧ CharClass.lower.text <:+: pattern))
  (horder : [.digit, .word, .lower, .upper, .number] = earlier ++ c :: later)
  (hclass : c.text <:+: pattern) (hearlier : ∀ other ∈ earlier, ¬other.text <:+: pattern)

include hmail hcases horder hclass hearlier

/-- A text is drawn for the first class of the pattern. -/
theorem synthesize_eq_of_first :
    synthesize pattern =
      Draw.textBetween (lengthFor pattern c).1 (lengthFor pattern c).2 c.pool := by
  have hlooks : looksLikeMail pattern ≠ true := by
    intro h
    rw [looksLikeMail, Bool.and_eq_true, decide_eq_true_eq, occurs_iff] at h
    exact hmail h
  have hmixes : mixesCases pattern ≠ true := by
    intro h
    rw [mixesCases, Bool.and_eq_true, occurs_iff, occurs_iff] at h
    exact hcases h
  have hfind : CharClass.all.find? (fun other => occurs other.text pattern) = some c := by
    refine List.find?_eq_some_iff_append.2 ⟨occurs_iff.2 hclass, earlier, later, horder, ?_⟩
    intro other hother
    have hnot := mt occurs_iff.1 (hearlier other hother)
    simpa using hnot
  rw [synthesize, if_neg hlooks, if_neg hmixes, hfind]

/-- **What is drawn for a pattern of one class.** The class that counts is the first one, in the
order of the escapes of digits and of words, small letters, capital letters and the range of digits,
that stands in the pattern. There are exactly two bounds that govern it, and for any random source
the text has characters of the class, with a length between the bounds in either order; so it never
has more characters than the limit of repetitions.

**Proof sketch.** No earlier way to read the pattern applies, so the first class that stands in it
is drawn from. The length lies between the bounds that govern the class, neither of which is above
the limit. -/
theorem gives_synthesize_class :
    ∃ bounds : Nat × Nat, (∀ other, Governs pattern c other ↔ other = bounds) ∧
      Gives (synthesize pattern) fun text =>
        (min bounds.1 bounds.2 ≤ text.length ∧ text.length ≤ max bounds.1 bounds.2) ∧
          text.length ≤ maxRepeat.toNat ∧ ∀ x ∈ text, c.Accepts x := by
  refine ⟨lengthFor pattern c, fun _ => governs_iff, ?_⟩
  have hle : Governs pattern c (lengthFor pattern c) := governs_iff.2 rfl
  obtain ⟨hfirst, hsecond⟩ := hle.le
  rw [synthesize_eq_of_first hmail hcases horder hclass hearlier]
  intro source
  obtain ⟨⟨hmin, hmax⟩, hpool⟩ := Draw.gives_textBetween_minmax
    (inRange_of_le_maxRepeat hfirst) (inRange_of_le_maxRepeat hsecond) c.pool_ne_nil source
  refine ⟨⟨hmin, hmax⟩, ?_, fun x hx => CharClass.accepts_of_mem_pool (hpool x hx)⟩
  exact hmax.trans (Nat.max_le.2 ⟨hfirst, hsecond⟩)

end OneClass

/-- The digits have no quantifier at first, and then one whose bounds are not in order; another one
stands before both of them. -/
theorem gives_synthesize_class_behind :
    ¬('@' ∈ "a{2}[a-z]\\d-\\d{7,3}".toList ∧ ['\\', '.'] <:+: "a{2}[a-z]\\d-\\d{7,3}".toList) ∧
    CharClass.digit.text <:+: "a{2}[a-z]\\d-\\d{7,3}".toList ∧
    Gives (synthesize "a{2}[a-z]\\d-\\d{7,3}".toList) fun text =>
      3 ≤ text.length ∧ text.length ≤ 7 ∧ ∀ x ∈ text, '0' ≤ x ∧ x ≤ '9' := by
  have hmail : ¬('@' ∈ "a{2}[a-z]\\d-\\d{7,3}".toList ∧
      ['\\', '.'] <:+: "a{2}[a-z]\\d-\\d{7,3}".toList) := fun h => absurd h.1 (by decide)
  have hcases : ¬(CharClass.upper.text <:+: "a{2}[a-z]\\d-\\d{7,3}".toList ∧
      CharClass.lower.text <:+: "a{2}[a-z]\\d-\\d{7,3}".toList) :=
    fun h => absurd (occurs_iff.2 h.1) (by decide)
  have hclass : CharClass.digit.text <:+: "a{2}[a-z]\\d-\\d{7,3}".toList :=
    occurs_iff.1 (by decide)
  have horder : [CharClass.digit, .word, .lower, .upper, .number] =
    [] ++ .digit :: [.word, .lower, .upper, .number] := rfl
  have hlength : lengthFor "a{2}[a-z]\\d-\\d{7,3}".toList .digit = (7, 3) := by decide
  obtain ⟨bounds, hgoverns, hgives⟩ := gives_synthesize_class hmail hcases horder hclass nofun
  obtain rfl := (hgoverns _).1 (governs_iff.2 hlength.symm)
  refine ⟨hmail, hclass, fun source => ?_⟩
  obtain ⟨⟨hmin, hmax⟩, -, hall⟩ := hgives source
  exact ⟨hmin, hmax, hall⟩

end Specimen.Pattern
