import Specimen.Proofs.Pattern.Quantifier

set_option autoImplicit false

/-!
# Patterns of several classes

A pattern can be written as a row of classes, each perhaps with a quantifier behind it. The parts
that are read from such a pattern are those of which it is written, and when both cases stand in it
one piece is drawn for each part. What is drawn is a text that the pattern describes, as long as not
all of its pieces are empty: no text of a row is empty, and letters and digits take its place.

## Main definitions

* `Specimen.Pattern.Part.text`, `Specimen.Pattern.Part.Spans` — how parts are written, and the
  bounds of their pieces.
* `Specimen.Pattern.Part.Matches` — the pieces that a part describes.

## Main results

* `Specimen.Pattern.parts_flatMap_text` — a row is read as the parts of which it is written.
* `Specimen.Pattern.run_synthesize_parts` — what is drawn for a row.
* `Specimen.Pattern.run_synthesize_parts_empty` — a row whose pieces are all empty.
-/

namespace Specimen.Pattern

/-! ## Parts as written -/

namespace Part

/-- How the quantifier of a part is written. -/
def quantifierText (part : Part) : List Char :=
  match part.quantifier with
  | none => []
  | some q => q.text

/-- How a part is written. -/
def text (part : Part) : List Char := part.charClass.text ++ part.quantifierText

/-- The bounds of the pieces of a part. Those of a quantifier are in order. -/
inductive Spans : Part → Nat → Nat → Prop
  /-- Without quantifier there is one character. -/
  | once {c : CharClass} : Spans ⟨c, none⟩ 1 1
  /-- The quantifier sets the bounds. -/
  | counted {c : CharClass} {q : Quantifier} {low high : Nat} : q.Bounds low high → low ≤ high →
    Spans ⟨c, some q⟩ low high

/-- The part has bounds. -/
def IsBounded (part : Part) : Prop := ∃ low high, part.Spans low high

/-- The pieces that a part describes: characters of its class, between its bounds in number. -/
def Matches (part : Part) (piece : List Char) : Prop :=
  ∃ low high, part.Spans low high ∧ (low ≤ piece.length ∧ piece.length ≤ high) ∧
    ∀ c ∈ piece, part.charClass.Accepts c

variable {part : Part} {low high : Nat}

/-- The bounds are those with which the piece is drawn. -/
theorem Spans.eq (h : part.Spans low high) : part.low = low ∧ part.high = high := by
  cases h with
  | once => exact ⟨rfl, rfl⟩
  | counted hbounds =>
    cases hbounds with
    | one hn => simp [Part.low, Part.high, Quantifier.quantity?_eq_some_iff.2 hn]
    | two hlow hhigh =>
      simp [Part.low, Part.high, Quantifier.quantity?_eq_some_iff.2 hlow,
        Quantifier.quantity?_eq_some_iff.2 hhigh]

/-- The bounds are in order, and at most the limit of repetitions. -/
theorem Spans.le (h : part.Spans low high) : low ≤ high ∧ high ≤ maxRepeat.toNat := by
  cases h with
  | once => decide
  | counted hbounds hle => exact ⟨hle, hbounds.le.2⟩

/-- **A piece that is drawn for a part** is one that the part describes. -/
theorem gives_synthesizePart (h : part.IsBounded) : Gives (synthesizePart part) part.Matches := by
  obtain ⟨low, high, hspans⟩ := h
  obtain ⟨hle, hlimit⟩ := hspans.le
  obtain ⟨hlow, hhigh⟩ := hspans.eq
  rw [synthesizePart, hlow, hhigh]
  intro source
  obtain ⟨hlength, hpool⟩ :=
    Draw.gives_textBetween hle (inRange_of_le_maxRepeat hlimit) part.charClass.pool_ne_nil source
  exact ⟨low, high, hspans, hlength, fun c hc => CharClass.accepts_of_mem_pool (hpool c hc)⟩

end Part

namespace Quantifier

/-- ASCII digits are decimal digits. -/
theorem isDecimalDigit_of_isDigit {c : Char} (h : Integer.isDigit c = true) :
    Text.isDecimalDigit c = true := by
  simp only [Integer.isDigit, Bool.and_eq_true, decide_eq_true_eq, Char.le_def,
    UInt32.le_iff_toNat_le] at h
  change 48 ≤ c.val.toNat ∧ c.val.toNat ≤ 57 at h
  refine List.any_eq_true.2 ⟨0x30, List.mem_cons_self .., ?_⟩
  simp only [Char.toNat, Bool.and_eq_true, decide_eq_true_eq]
  omega

theorem IsBound.isRow {digits : List Char} {n : Nat} (h : IsBound digits n) : IsRow digits :=
  ⟨h.1.ne_nil, fun c hc => isDecimalDigit_of_isDigit (h.1.isDigit c hc)⟩

/-- A quantifier that sets bounds has rows of digits. -/
theorem Bounds.isProper {q : Quantifier} {low high : Nat} (h : q.Bounds low high) :
    q.IsProper := by
  cases h with
  | one hn => exact ⟨hn.isRow, nofun⟩
  | two hlow hhigh =>
    refine ⟨hlow.isRow, ?_⟩
    rintro _ ⟨⟩
    exact hhigh.isRow

end Quantifier

/-! ## Reading a row of parts -/

/-- A class at the front of a text is read. -/
theorem CharClass.at?_text_append (c : CharClass) (rest : List Char) :
    at? (c.text ++ rest) = some c := by
  cases c <;> rfl

/-- What belongs to the part before makes no parts. -/
theorem partsFrom_length_append (taken rest : List Char) :
    partsFrom taken.length (taken ++ rest) = parts rest := by
  induction taken with
  | nil => rfl
  | cons c taken ih => exact ih

namespace Part

variable {part : Part}

/-- The quantifier of a part is read behind its class, when no other one begins behind the part. -/
theorem IsBounded.at?_quantifierText (h : part.IsBounded) {rest : List Char}
    (hrest : rest.head? ≠ some '{') :
    Quantifier.at? (part.quantifierText ++ rest) = part.quantifier := by
  obtain ⟨low, high, hspans⟩ := h
  cases hspans with
  | once =>
    change Quantifier.at? rest = none
    unfold Quantifier.at?
    split
    · exact absurd rfl hrest
    · rfl
  | counted hbounds =>
    exact Quantifier.at?_eq_some_iff.2 ⟨hbounds.isProper, List.prefix_append ..⟩

theorem length_quantifierText (part : Part) :
    part.quantifierText.length = (part.quantifier.map Quantifier.width).getD 0 := by
  obtain ⟨c, _ | q⟩ := part
  · rfl
  · exact q.length_text

/-- A part is written with its class in front. -/
theorem exists_text_eq (part : Part) : ∃ first tail, part.text = first :: tail ∧ first ≠ '{' := by
  obtain ⟨c, q⟩ := part
  cases c <;> exact ⟨_, _, rfl, by decide⟩

/-- **A part at the front of a text is read**, and what stands behind it gives the others.

**Proof sketch.** The class is read first, and behind it the quantifier of the part or, since no
brace follows, none. The scan then skips what the part is written with. -/
theorem IsBounded.parts_text_append (h : part.IsBounded) {rest : List Char}
    (hrest : rest.head? ≠ some '{') : parts (part.text ++ rest) = part :: parts rest := by
  have hclass : CharClass.at? (part.text ++ rest) = some part.charClass := by
    rw [Part.text, List.append_assoc, CharClass.at?_text_append]
  have hquantifier :
      Quantifier.at? ((part.text ++ rest).drop part.charClass.text.length) = part.quantifier := by
    rw [Part.text, List.append_assoc, List.drop_left, h.at?_quantifierText hrest]
  have hwidth : part.text.length =
      part.charClass.text.length + (part.quantifier.map Quantifier.width).getD 0 := by
    rw [Part.text, List.length_append, length_quantifierText]
  obtain ⟨first, tail, htext, -⟩ := part.exists_text_eq
  rw [htext] at hclass hquantifier hwidth ⊢
  rw [List.cons_append] at hclass hquantifier ⊢
  rw [parts, partsFrom, hclass]
  dsimp only
  rw [hquantifier, ← hwidth, List.length_cons, Nat.add_sub_cancel, partsFrom_length_append]

end Part

/-- No quantifier begins a row. -/
theorem head?_flatMap_text (written : List Part) :
    (written.flatMap Part.text).head? ≠ some '{' := by
  cases written with
  | nil => nofun
  | cons part written =>
    obtain ⟨first, tail, htext, hne⟩ := part.exists_text_eq
    simpa [htext] using hne

/-- **A row is read as the parts of which it is written.** -/
theorem parts_flatMap_text {written : List Part} (h : ∀ part ∈ written, part.IsBounded) :
    parts (written.flatMap Part.text) = written := by
  induction written with
  | nil => rfl
  | cons part written ih =>
    have hpart := h part (List.mem_cons_self ..)
    rw [List.flatMap_cons, hpart.parts_text_append (head?_flatMap_text written),
      ih fun other ho => h other (List.mem_cons_of_mem _ ho)]

/-! ## What is drawn for a row -/

/-- A bounded part has no at sign. -/
theorem Part.IsBounded.at_notMem_text {part : Part} (h : part.IsBounded) : '@' ∉ part.text := by
  obtain ⟨low, high, hspans⟩ := h
  have hclass : ∀ c : CharClass, '@' ∉ c.text := by
    intro c
    cases c <;> decide
  have hbound : ∀ {digits : List Char} {n : Nat}, Quantifier.IsBound digits n → '@' ∉ digits := by
    intro digits n hn hmem
    have hdigit := hn.1.isDigit '@' hmem
    cases hdigit
  cases hspans with
  | once => simpa [Part.text, Part.quantifierText] using hclass _
  | counted hbounds =>
    cases hbounds with
    | one hn => simp [Part.text, Part.quantifierText, Quantifier.text, Quantifier.inner, hclass,
        hbound hn]
    | two hlow hhigh => simp [Part.text, Part.quantifierText, Quantifier.text, Quantifier.inner,
        hclass, hbound hlow, hbound hhigh]

/-- When a part describes no empty piece, not all pieces are empty. -/
theorem flatten_ne_nil {written : List Part} {pieces : List (List Char)}
    (h : List.Forall₂ Part.Matches written pieces) {part : Part} (hpart : part ∈ written)
    (hempty : ¬part.Matches []) : pieces.flatten ≠ [] := by
  induction h with
  | nil => cases hpart
  | @cons first piece written pieces hmatches hrest ih =>
    intro hnil
    obtain ⟨rfl, hothers⟩ := List.append_eq_nil_iff.1 hnil
    rcases List.mem_cons.1 hpart with rfl | hother
    · exact hempty hmatches
    · exact ih hother hothers

section Row

variable {written : List Part} (hbounded : ∀ part ∈ written, part.IsBounded)
  (hupper : CharClass.upper.text <:+: written.flatMap Part.text)
  (hlower : CharClass.lower.text <:+: written.flatMap Part.text)

include hbounded hupper hlower

/-- Pieces are drawn for the parts of a row in which both cases stand. -/
theorem synthesize_flatMap_text :
    synthesize (written.flatMap Part.text) = (Draw.forEach synthesizePart written >>= fun pieces =>
      if pieces.flatten.isEmpty then synthesizeDefault else pure pieces.flatten) := by
  have hat : '@' ∉ written.flatMap Part.text := by
    intro hmem
    obtain ⟨part, hpart, hchar⟩ := List.mem_flatMap.1 hmem
    exact (hbounded part hpart).at_notMem_text hchar
  have hlooks : looksLikeMail (written.flatMap Part.text) = false := by
    rw [looksLikeMail, decide_eq_false hat, Bool.false_and]
  have hmixes : mixesCases (written.flatMap Part.text) = true := by
    rw [mixesCases, occurs_iff.2 hupper, occurs_iff.2 hlower]
    rfl
  rw [synthesize, hlooks, hmixes, if_neg Bool.false_ne_true, if_pos rfl, synthesizeParts,
    parts_flatMap_text hbounded]

/-- **What is drawn for a row of parts** in which both cases stand: the pieces that are drawn one
after the other, each one that its part describes. Together they are the text, unless they are all
empty; then letters and digits are drawn in their place. Pieces are not all empty when there is a
part that describes no empty piece.

**Proof sketch.** The pattern is read as the parts that it is written with, and each of them draws a
piece that it describes, in the order of the parts. Only an empty result is replaced. -/
theorem run_synthesize_parts (source : Source) :
    ∃ (pieces : List (List Char)) (reached : Source),
      (Draw.forEach synthesizePart written).run source = (pieces, reached) ∧
      List.Forall₂ Part.Matches written pieces ∧
      (pieces.flatten ≠ [] →
        (synthesize (written.flatMap Part.text)).run source = (pieces.flatten, reached)) ∧
      (pieces.flatten = [] →
        (synthesize (written.flatMap Part.text)).run source = synthesizeDefault.run reached) ∧
      ((∃ part ∈ written, ¬part.Matches []) →
        (synthesize (written.flatMap Part.text)).run source = (pieces.flatten, reached)) := by
  have hmatches : Gives (Draw.forEach synthesizePart written) (List.Forall₂ Part.Matches written) :=
    Draw.gives_forEach fun part hpart => Part.gives_synthesizePart (hbounded part hpart)
  have hpieces := hmatches source
  rw [synthesize_flatMap_text hbounded hupper hlower, run_bind]
  generalize hrun : (Draw.forEach synthesizePart written).run source = drawn at hpieces
  obtain ⟨pieces, reached⟩ := drawn
  have hsome : pieces.flatten ≠ [] →
      StateT.run (if pieces.flatten.isEmpty then synthesizeDefault else pure pieces.flatten)
        reached = (pieces.flatten, reached) := by
    intro hne
    rw [if_neg (by simpa using hne)]
    rfl
  refine ⟨pieces, reached, rfl, hpieces, hsome, fun hnil => ?_, ?_⟩
  · rw [if_pos (by simpa using hnil)]
  · rintro ⟨part, hpart, hempty⟩
    exact hsome (flatten_ne_nil hpieces hpart hempty)

end Row

/-- A capital letter may stand in front of two small letters. -/
theorem run_synthesize_parts_word :
    (∀ part ∈ [⟨.upper, some ⟨['0'], some ['1']⟩⟩, ⟨.lower, some ⟨['2'], none⟩⟩, ⟨.word, none⟩],
      Part.IsBounded part) ∧
    CharClass.upper.text <:+: "[A-Z]{0,1}[a-z]{2}\\w".toList ∧
    CharClass.lower.text <:+: "[A-Z]{0,1}[a-z]{2}\\w".toList ∧
    ∃ pieces, List.Forall₂ Part.Matches
        [⟨.upper, some ⟨['0'], some ['1']⟩⟩, ⟨.lower, some ⟨['2'], none⟩⟩, ⟨.word, none⟩] pieces ∧
      ((synthesize "[A-Z]{0,1}[a-z]{2}\\w".toList).run default).1 = pieces.flatten := by
  have hbound : ∀ {digits : List Char} {n : Nat}, Quantifier.quantity? digits = some n →
      Quantifier.IsBound digits n := Quantifier.quantity?_eq_some_iff.1
  have hbounded : ∀ part ∈ [⟨.upper, some ⟨['0'], some ['1']⟩⟩, ⟨.lower, some ⟨['2'], none⟩⟩,
      ⟨.word, none⟩], Part.IsBounded part := by
    intro part hpart
    rcases List.mem_cons.1 hpart with rfl | hpart
    · exact ⟨0, 1, .counted (.two (hbound (by decide)) (hbound (by decide))) (by decide)⟩
    rcases List.mem_cons.1 hpart with rfl | hpart
    · exact ⟨2, 2, .counted (.one (hbound (by decide))) le_rfl⟩
    · obtain rfl := List.mem_singleton.1 hpart
      exact ⟨1, 1, .once⟩
  have hupper : CharClass.upper.text <:+: "[A-Z]{0,1}[a-z]{2}\\w".toList :=
    occurs_iff.1 (by decide)
  have hlower : CharClass.lower.text <:+: "[A-Z]{0,1}[a-z]{2}\\w".toList :=
    occurs_iff.1 (by decide)
  refine ⟨hbounded, hupper, hlower, ?_⟩
  obtain ⟨pieces, reached, -, hpieces, -, -, hsome⟩ :=
    run_synthesize_parts hbounded hupper hlower default
  have hletter : ¬Part.Matches ⟨.word, none⟩ [] := by
    rintro ⟨low, high, ⟨⟩, ⟨hlow, -⟩, -⟩
    cases hlow
  have hrun := hsome ⟨⟨.word, none⟩, List.mem_of_mem_getLast? rfl, hletter⟩
  exact ⟨pieces, hpieces, congrArg Prod.fst hrun⟩

/-- **A row whose pieces are all empty** gives letters in their place, and so no text that it
describes. -/
theorem run_synthesize_parts_empty :
    (∀ part ∈ [⟨.upper, some ⟨['0'], none⟩⟩, ⟨.lower, some ⟨['0'], none⟩⟩], Part.IsBounded part) ∧
    CharClass.upper.text <:+: "[A-Z]{0}[a-z]{0}".toList ∧
    CharClass.lower.text <:+: "[A-Z]{0}[a-z]{0}".toList ∧
    [⟨.upper, some ⟨['0'], none⟩⟩, ⟨.lower, some ⟨['0'], none⟩⟩].flatMap Part.text =
      "[A-Z]{0}[a-z]{0}".toList ∧
    ((synthesize "[A-Z]{0}[a-z]{0}".toList).run default).1 = "aaaaa".toList ∧
    ¬∃ pieces, List.Forall₂ Part.Matches
        [⟨.upper, some ⟨['0'], none⟩⟩, ⟨.lower, some ⟨['0'], none⟩⟩] pieces ∧
      ((synthesize "[A-Z]{0}[a-z]{0}".toList).run default).1 = pieces.flatten := by
  have hspans : ∀ c : CharClass, Part.Spans ⟨c, some ⟨['0'], none⟩⟩ 0 0 := fun c =>
    .counted (.one (Quantifier.quantity?_eq_some_iff.1 (by decide))) le_rfl
  have hnil : ∀ {c : CharClass} {piece : List Char},
      Part.Matches ⟨c, some ⟨['0'], none⟩⟩ piece → piece = [] := by
    rintro c piece ⟨low, high, hbounds, ⟨-, hle⟩, -⟩
    have hzero : high = 0 := hbounds.eq.2.symm.trans (hspans c).eq.2
    rw [hzero, Nat.le_zero] at hle
    exact List.eq_nil_of_length_eq_zero hle
  have hdrawn : ((synthesize "[A-Z]{0}[a-z]{0}".toList).run default).1 = "aaaaa".toList := by
    decide
  refine ⟨?_, occurs_iff.1 (by decide), occurs_iff.1 (by decide), by decide, hdrawn, ?_⟩
  · intro part hpart
    rcases List.mem_cons.1 hpart with rfl | hpart
    · exact ⟨0, 0, hspans _⟩
    · obtain rfl := List.mem_singleton.1 hpart
      exact ⟨0, 0, hspans _⟩
  · rintro ⟨pieces, hpieces, htext⟩
    rw [hdrawn] at htext
    obtain _ | ⟨hfirst, _ | ⟨hsecond, _ | _⟩⟩ := hpieces
    rw [hnil hfirst, hnil hsecond] at htext
    cases htext

end Specimen.Pattern
