import Specimen.Proofs.Text.Plain

set_option autoImplicit false

/-!
# Cutting texts at marks

Marks stand in a text, and the text between them is plain. A text is cut from left to right: the
next mark stands at the first place where any mark begins, and at a place there is at most one.
What can begin at a place of a text depends on all that follows, so a gap is one before the text
that follows it. There is exactly one way to cut a text, and whatever reads the text from left to
right goes along its cuts.

## Main definitions

* `Specimen.Text.Marks` — how marks are written, and where they stand.
* `Specimen.Text.IsGap` — nothing begins in a text before another.
* `Specimen.Text.Marks.Cuts` — a text is gaps and marks, and a last gap.
* `Specimen.Text.fill` — the gaps with what takes the places of the marks between them.

## Main results

* `Specimen.Text.IsGap.eq_of_append_eq` — there is one gap before the first place.
* `Specimen.Text.Marks.Cuts.unique`, `Specimen.Text.Marks.existsUnique_cuts` — there is exactly one
  way to cut a text.
* `Specimen.Text.Marks.Cuts.scan_eq` — what a scan of a text gives are the parts of its cuts.
* `Specimen.Text.run_forEach_partsOfCuts` — the parts of cuts are replaced along the cuts.
-/

namespace Specimen.Text

/-! ## Gaps -/

section Gaps

variable {begins : List Char → Prop}

/-- Nowhere in the gap before the text does anything begin. -/
def IsGap (begins : List Char → Prop) (gap text : List Char) : Prop :=
  ∀ before after, gap = before ++ after → after ≠ [] → ¬begins (after ++ text)

theorem isGap_nil (begins : List Char → Prop) (text : List Char) : IsGap begins [] text := by
  intro before after h hne
  exact absurd (List.append_eq_nil_iff.1 h.symm).2 hne

/-- A gap goes on to the left when nothing begins there, and only then. -/
theorem isGap_cons_iff {c : Char} {gap text : List Char} :
    IsGap begins (c :: gap) text ↔ ¬begins (c :: (gap ++ text)) ∧ IsGap begins gap text := by
  constructor
  · intro h
    refine ⟨h [] (c :: gap) rfl (List.cons_ne_nil c gap), fun before after heq hne => ?_⟩
    exact h (c :: before) after (congrArg (c :: ·) heq) hne
  · rintro ⟨hc, h⟩ before after hcons hne
    cases before with
    | nil =>
      rw [List.nil_append] at hcons
      rwa [← hcons]
    | cons b before => exact h before after (List.cons.inj hcons).2 hne

/-- Where something begins in a text, the text is no gap. -/
theorem not_isGap_append {gap text : List Char} (hne : text ≠ []) (hbegins : begins text) :
    ¬IsGap begins (gap ++ text) [] := by
  intro hgap
  refine hgap gap text rfl hne ?_
  rwa [List.append_nil]

/-- **The first place where something begins** is one place. -/
theorem IsGap.eq_of_append_eq {gap other first second : List Char} (hgap : IsGap begins gap first)
    (hother : IsGap begins other second) (hfirst : begins first) (hsecond : begins second)
    (h : gap ++ first = other ++ second) : gap = other ∧ first = second := by
  have hnil : ∀ {gap more second : List Char}, IsGap begins (gap ++ more) second →
      begins (more ++ second) → more = [] :=
    fun hgap hbegins => by_contra fun hne => hgap _ _ rfl hne hbegins
  rcases List.append_eq_append_iff.1 h with ⟨more, rfl, rfl⟩ | ⟨more, rfl, rfl⟩
  · obtain rfl := hnil hother hfirst
    exact ⟨(List.append_nil _).symm, rfl⟩
  · obtain rfl := hnil hgap hsecond
    exact ⟨List.append_nil _, rfl⟩

end Gaps

/-! ## Marks -/

/-- What texts are cut at. -/
structure Marks (α : Type) where
  /-- How a mark is written. -/
  written : α → List Char
  /-- Some mark begins at the front of a text. -/
  Begins : List Char → Prop
  /-- A mark stands at the front of a text. -/
  Stands : α → List Char → Prop
  /-- A mark is written with some character. -/
  written_ne_nil : ∀ mark, written mark ≠ []
  /-- Where marks begin, one stands. -/
  begins_iff : ∀ text, Begins text ↔ ∃ mark, written mark <+: text ∧ Stands mark text
  /-- At one place only one mark stands. -/
  unique : ∀ text first second, written first <+: text → Stands first text →
    written second <+: text → Stands second text → first = second

namespace Marks

variable {α : Type}

/-- A text is cut into marks with the gaps before them, and a last gap. -/
inductive Cuts (marks : Marks α) : List Char → List (List Char × α) → List Char → Prop
  /-- A text in which no mark begins is a gap. -/
  | last {gap : List Char} (h : IsGap marks.Begins gap []) : marks.Cuts gap [] gap
  /-- Behind a gap stands the first mark that begins in the text, and what stands behind it is cut,
  too. -/
  | mark {gap rest final : List Char} {mark : α} {parts : List (List Char × α)}
      (hgap : IsGap marks.Begins gap (marks.written mark ++ rest))
      (hmark : marks.Stands mark (marks.written mark ++ rest))
      (hrest : marks.Cuts rest parts final) :
      marks.Cuts (gap ++ (marks.written mark ++ rest)) ((gap, mark) :: parts) final

variable {marks : Marks α} {text rest final : List Char} {parts : List (List Char × α)}

/-- A mark that stands at the front of a text begins there. -/
theorem begins_of_stands {mark : α} (h : marks.Stands mark (marks.written mark ++ rest)) :
    marks.Begins (marks.written mark ++ rest) :=
  (marks.begins_iff _).2 ⟨mark, List.prefix_append .., h⟩

theorem not_isGap_of_stands {gap : List Char} {mark : α}
    (h : marks.Stands mark (marks.written mark ++ rest)) :
    ¬IsGap marks.Begins (gap ++ (marks.written mark ++ rest)) [] :=
  not_isGap_append (List.append_ne_nil_of_left_ne_nil (marks.written_ne_nil mark) rest)
    (begins_of_stands h)

/-- **There is only one way to cut a text.** The first marks begin at the same place, and there is
only one mark there.

**Proof sketch.** By induction on one of the cuts. Where a mark begins, a text is no gap, so both
cuts end at the same time; and the first places at which they have a mark are the same. -/
theorem Cuts.unique {final' : List Char} {parts' : List (List Char × α)}
    (h : marks.Cuts text parts final) (hother : marks.Cuts text parts' final') :
    parts = parts' ∧ final = final' := by
  induction h generalizing parts' with
  | last hgap =>
    cases hother with
    | last => exact ⟨rfl, rfl⟩
    | mark _ hmark _ => exact absurd hgap (not_isGap_of_stands hmark)
  | @mark gap rest final mark parts hgap hmark hrest ih =>
    generalize htext : gap ++ (marks.written mark ++ rest) = text at hother
    cases hother with
    | last hall =>
      subst htext
      exact absurd hall (not_isGap_of_stands hmark)
    | @mark gap' rest' _ mark' parts' hgap' hmark' hrest' =>
      obtain ⟨rfl, hsame⟩ :=
        hgap.eq_of_append_eq hgap' (begins_of_stands hmark) (begins_of_stands hmark') htext
      obtain rfl : mark = mark' := marks.unique _ mark mark' (List.prefix_append ..) hmark
        (hsame ▸ List.prefix_append ..) (hsame ▸ hmark')
      obtain rfl := List.append_cancel_left hsame
      obtain ⟨rfl, rfl⟩ := ih hrest'
      exact ⟨rfl, rfl⟩

/-- A mark at the front of a text has no gap before it. -/
theorem Cuts.cons_mark (h : marks.Cuts rest parts final) {mark : α}
    (hmark : marks.Stands mark (marks.written mark ++ rest)) :
    marks.Cuts (marks.written mark ++ rest) (([], mark) :: parts) final :=
  .mark (isGap_nil _ _) hmark h

section Plain

variable {c : Char} (hplain : ¬marks.Begins (c :: rest))

include hplain

/-- A character where no mark begins belongs to the gap before the next mark. -/
theorem Cuts.cons_plain {gap : List Char} {mark : α}
    (h : marks.Cuts rest ((gap, mark) :: parts) final) :
    marks.Cuts (c :: rest) ((c :: gap, mark) :: parts) final := by
  cases h with
  | mark hgap hmark hrest => exact .mark (isGap_cons_iff.2 ⟨hplain, hgap⟩) hmark hrest

/-- Behind the last mark it belongs to the last gap. -/
theorem Cuts.cons_last (h : marks.Cuts rest [] final) : marks.Cuts (c :: rest) [] (c :: final) := by
  cases h with
  | last hgap => exact .last (isGap_cons_iff.2 ⟨by rwa [List.append_nil], hgap⟩)

end Plain

/-- **Every text can be cut**, in exactly one way.

**Proof sketch.** By induction on the length of the text. A mark at its front has no gap before it,
and any other character goes in front of the first gap of the rest. -/
theorem existsUnique_cuts (marks : Marks α) (text : List Char) :
    ∃! cuts : List (List Char × α) × List Char, marks.Cuts text cuts.1 cuts.2 := by
  have hexists : ∃ parts final, marks.Cuts text parts final := by
    induction h : text.length using Nat.strongRecOn generalizing text with
    | ind length ih =>
      subst h
      by_cases hbegins : marks.Begins text
      · obtain ⟨mark, ⟨rest, rfl⟩, hmark⟩ := (marks.begins_iff text).1 hbegins
        have hlength : rest.length < (marks.written mark ++ rest).length := by
          rw [List.length_append]
          have := List.length_pos_of_ne_nil (marks.written_ne_nil mark)
          omega
        obtain ⟨parts, final, hcuts⟩ := ih _ hlength rest rfl
        exact ⟨_, _, hcuts.cons_mark hmark⟩
      · cases text with
        | nil => exact ⟨[], [], .last (isGap_nil _ _)⟩
        | cons c rest =>
          obtain ⟨parts, final, hcuts⟩ := ih _ (Nat.lt_succ_self _) rest rfl
          cases parts with
          | nil => exact ⟨_, _, hcuts.cons_last hbegins⟩
          | cons part parts => exact ⟨_, _, hcuts.cons_plain hbegins⟩
  obtain ⟨parts, final, hcuts⟩ := hexists
  refine ⟨(parts, final), hcuts, fun other hother => ?_⟩
  obtain ⟨hparts, hfinal⟩ := hother.unique hcuts
  exact Prod.ext hparts hfinal

end Marks

/-! ## Scans -/

section Scans

variable {α β : Type} (plain : Char → β) (marked : α → β)

/-- The characters of gaps, and the marks, in one list. -/
def partsOfCuts (parts : List (List Char × α)) (final : List Char) : List β :=
  parts.flatMap (fun part => part.1.map plain ++ [marked part.2]) ++ final.map plain

theorem partsOfCuts_cons (gap : List Char) (mark : α) (parts : List (List Char × α))
    (final : List Char) :
    partsOfCuts plain marked ((gap, mark) :: parts) final =
      gap.map plain ++ marked mark :: partsOfCuts plain marked parts final := by
  simp [partsOfCuts]

variable {plain marked} {marks : Marks α} {scan : List Char → List β}
  (hplain : ∀ c rest, ¬marks.Begins (c :: rest) → scan (c :: rest) = plain c :: scan rest)

include hplain

/-- A scan leaves the characters of a gap as they are. -/
theorem IsGap.scan_append {gap text : List Char} (h : IsGap marks.Begins gap text) :
    scan (gap ++ text) = gap.map plain ++ scan text := by
  induction gap with
  | nil => rfl
  | cons c gap ih =>
    obtain ⟨hbegins, hgap⟩ := isGap_cons_iff.1 h
    rw [List.cons_append, hplain c _ hbegins, ih hgap, List.map_cons, List.cons_append]

/-- **A scan of a text gives the parts of its cuts**, when it reads each mark where it stands.

**Proof sketch.** By induction on the cuts. The scan leaves the characters of a gap alone, one by
one, and reads the mark behind it. -/
theorem Marks.Cuts.scan_eq (hnil : scan [] = [])
    (hmarked : ∀ mark rest, marks.Stands mark (marks.written mark ++ rest) →
      scan (marks.written mark ++ rest) = marked mark :: scan rest)
    {text final : List Char} {parts : List (List Char × α)} (h : marks.Cuts text parts final) :
    scan text = partsOfCuts plain marked parts final := by
  induction h with
  | @last gap hgap =>
    have hscan := hgap.scan_append hplain
    rw [List.append_nil, hnil, List.append_nil] at hscan
    exact hscan
  | mark hgap hmark _ ih =>
    rw [hgap.scan_append hplain, hmarked _ _ hmark, ih, partsOfCuts_cons]

end Scans

/-! ## Filling in -/

section Fill

variable {α β : Type}

/-- The text along cuts: the gaps as they are, and for each mark what takes its place. All comes
from one source, in the order of the marks. -/
def fill (replace : α → Draw (List Char)) :
    List (List Char × α) → List Char → Draw (List Char)
  | [], final => pure final
  | (gap, mark) :: parts, final => do
    let made ← replace mark
    let filled ← fill replace parts final
    pure (gap ++ (made ++ filled))

/-- **Parts of cuts are replaced along the cuts**, when plain characters are copied. -/
theorem run_forEach_partsOfCuts (step : β → Draw (List Char)) (plain : Char → β) (marked : α → β)
    (hcopy : ∀ c, step (plain c) = pure [c]) (parts : List (List Char × α)) (final : List Char)
    (source : Source) :
    ((Draw.forEach step (partsOfCuts plain marked parts final)).run source).map List.flatten id =
      (fill (fun mark => step (marked mark)) parts final).run source := by
  have hgap : ∀ gap : List Char, (gap.map fun c => [c]).flatten = gap := fun gap => by
    rw [← List.flatMap_def, List.flatMap_singleton']
  induction parts generalizing source with
  | nil =>
    rw [partsOfCuts, List.flatMap_nil, List.nil_append, Draw.run_forEach_copy step plain hcopy,
      Prod.map_apply, hgap]
    rfl
  | cons part parts ih =>
    obtain ⟨gap, mark⟩ := part
    rw [partsOfCuts_cons, Draw.run_forEach_copy_append step plain hcopy, Draw.forEach, run_bind,
      run_bind, run_pure, fill, run_bind, run_bind, run_pure, ← ih]
    simp [hgap]

end Fill

end Specimen.Text
