import Mathlib
import Specimen.Proofs.Text.Cuts

set_option autoImplicit false

/-!
# Replacing patterns in one pass

A text is cut from left to right: the next span begins at the first slash at which any span begins,
and at a slash there is at most one span, which ends at the next slash behind its first character.
There is exactly one way to cut a text like this. A text is expanded along its cuts, with the gaps
between spans as they are and each span replaced by what is made for its pattern, or left as written
when the pattern is not well formed. What takes the place of a span is not read again.

## Main definitions

* `Specimen.Pattern.IsBody` — the patterns that stand in spans.
* `Specimen.Pattern.marks` — spans as marks of a text.
* `Specimen.Pattern.replace` — what takes the place of a span.

## Main results

* `Specimen.Pattern.pattern?_eq_some_iff` — the span that is read.
* `Specimen.Pattern.pieces_of_cuts` — the pieces of a text are those of its cuts.
* `Specimen.Pattern.expand_cuts` — a text is expanded along its cuts.
-/

namespace Specimen.Pattern

/-! ## Spans -/

/-- The pattern of a span: it is not empty, has no line break, and no slash behind its first
character. -/
def IsBody (pattern : List Char) : Prop :=
  pattern ≠ [] ∧ '\n' ∉ pattern ∧ '/' ∉ pattern.tail

instance : DecidablePred IsBody := fun _ => inferInstanceAs (Decidable (_ ∧ _ ∧ _))

/-- A span stands at the front of the text. -/
def Begins (text : List Char) : Prop :=
  ∃ pattern, IsBody pattern ∧ (Piece.span pattern).text <+: text

/-- **The pattern that is read behind a slash** is the one whose span stands there. -/
theorem pattern?_eq_some_iff {rest pattern : List Char} :
    pattern? rest = some pattern ↔
      IsBody pattern ∧ (Piece.span pattern).text <+: '/' :: rest := by
  constructor
  · intro h
    cases rest with
    | nil => cases h
    | cons first rest =>
      rw [pattern?] at h
      split at h
      · rename_i more after hcut
        obtain ⟨rfl, hslash⟩ := Text.cut?_eq_some_iff.1 hcut
        obtain ⟨hline, hpattern⟩ := Option.ite_none_left_eq_some.1 h
        obtain rfl := Option.some.inj hpattern
        exact ⟨⟨List.cons_ne_nil _ _, hline, hslash⟩, after, by simp [Piece.text]⟩
      · cases h
  · rintro ⟨⟨hne, hline, hslash⟩, after, htext⟩
    obtain ⟨first, more, rfl⟩ := List.exists_cons_of_ne_nil hne
    obtain rfl : first :: more ++ '/' :: after = rest := by
      simpa [Piece.text] using htext
    have hcut : Text.cut? '/' (more ++ '/' :: after) = some (more, after) :=
      Text.cut?_eq_some_iff.2 ⟨rfl, hslash⟩
    simp only [List.cons_append, pattern?, hcut, if_neg hline]

/-- At one place there is at most one span. -/
theorem IsBody.unique {first second more rest : List Char} (hfirst : IsBody first)
    (hsecond : IsBody second)
    (h : (Piece.span first).text ++ more = (Piece.span second).text ++ rest) : first = second := by
  have hread : pattern? (first ++ ['/'] ++ more) = some first :=
    pattern?_eq_some_iff.2 ⟨hfirst, more, rfl⟩
  have hother : pattern? (first ++ ['/'] ++ more) = some second :=
    pattern?_eq_some_iff.2 ⟨hsecond, rest, h.symm⟩
  exact Option.some.inj (hread.symm.trans hother)

theorem IsBody.begins {pattern rest : List Char} (h : IsBody pattern) :
    Begins ((Piece.span pattern).text ++ rest) :=
  ⟨pattern, h, List.prefix_append ..⟩

/-- Spans are read where they begin, and nowhere else. -/
theorem begins_cons_iff {c : Char} {rest : List Char} :
    Begins (c :: rest) ↔ (if c = '/' then pattern? rest else none) ≠ none := by
  constructor
  · rintro ⟨pattern, hbody, htext⟩
    obtain rfl : '/' = c := (List.cons_prefix_cons.1 htext).1
    rw [if_pos rfl, pattern?_eq_some_iff.2 ⟨hbody, htext⟩]
    nofun
  · intro h
    obtain ⟨pattern, hpattern⟩ := Option.ne_none_iff_exists'.1 h
    obtain ⟨rfl, hread⟩ := Option.ite_none_right_eq_some.1 hpattern
    exact ⟨pattern, pattern?_eq_some_iff.1 hread⟩

instance : DecidablePred Begins
  | [] => isFalse (by rintro ⟨pattern, -, h⟩; cases List.prefix_nil.1 h)
  | _ :: _ => decidable_of_iff _ begins_cons_iff.symm

/-! ## Cutting texts at spans -/

/-- Spans are what a text is cut at. -/
def marks : Text.Marks (List Char) where
  written pattern := (Piece.span pattern).text
  Begins := Begins
  Stands pattern _ := IsBody pattern
  written_ne_nil _ := List.cons_ne_nil _ _
  begins_iff _ := exists_congr fun _ => and_comm
  unique := by
    rintro text first second ⟨more, rfl⟩ hfirst ⟨rest, heq⟩ hsecond
    exact hfirst.unique hsecond heq.symm

instance : DecidablePred marks.Begins := inferInstanceAs (DecidablePred Begins)

/-- What belongs to the span before makes no pieces. -/
theorem piecesFrom_length_append (taken rest : List Char) :
    piecesFrom taken.length (taken ++ rest) = pieces rest := by
  induction taken with
  | nil => rfl
  | cons c taken ih => exact ih

/-- A span at the front of a text is the first piece, and what stands behind it gives the others. -/
theorem pieces_span_append {pattern : List Char} (h : IsBody pattern) (rest : List Char) :
    pieces ((Piece.span pattern).text ++ rest) = .span pattern :: pieces rest := by
  have hread : pattern? (pattern ++ ['/'] ++ rest) = some pattern :=
    pattern?_eq_some_iff.2 ⟨h, rest, rfl⟩
  have hlength : pattern.length + 1 = (pattern ++ ['/']).length := by simp
  rw [pieces, Piece.text, List.cons_append, piecesFrom, if_pos rfl, hread]
  dsimp only
  rw [hlength, piecesFrom_length_append]

/-- A character where no span begins is a piece of its own. -/
theorem pieces_cons {c : Char} {rest : List Char} (h : ¬Begins (c :: rest)) :
    pieces (c :: rest) = .plain c :: pieces rest := by
  have hnone : (if c = '/' then pattern? rest else none) = none := by
    by_contra hsome
    exact h (begins_cons_iff.2 hsome)
  rw [pieces, piecesFrom, hnone]
  rfl

/-- The pieces of a text are those of its cuts. -/
theorem pieces_of_cuts {text final : List Char} {spans : List (List Char × List Char)}
    (h : marks.Cuts text spans final) : pieces text = Text.partsOfCuts .plain .span spans final :=
  h.scan_eq (fun _ _ => pieces_cons) rfl fun _ rest hbody => pieces_span_append hbody rest

/-! ## Filling in -/

/-- What takes the place of a span: what is made for its pattern, or the span as written when the
pattern is not well formed. -/
def replace (wellFormed : List Char → Bool) (pattern : List Char) : Draw (List Char) :=
  if wellFormed pattern then synthesize pattern else pure ('/' :: (pattern ++ ['/']))

section Fill

variable {wellFormed : List Char → Bool} {text final : List Char}
  {spans : List (List Char × List Char)} (h : marks.Cuts text spans final)

include h

/-- A text is expanded along its cuts. -/
theorem expandBy_of_cuts :
    expandBy wellFormed text = Text.fill (replace wellFormed) spans final := by
  funext source
  have hfill := Text.run_forEach_partsOfCuts (expandPiece wellFormed) .plain .span (fun _ => rfl)
    spans final source
  rw [← pieces_of_cuts h] at hfill
  exact hfill

/-- When no pattern is well formed, the cuts are put together as they were. -/
theorem fill_of_cuts (hform : ∀ span ∈ spans, wellFormed span.2 = false) :
    Text.fill (replace wellFormed) spans final = pure text := by
  induction h with
  | last => rfl
  | @mark gap rest final pattern spans _ _ _ ih =>
    have hpattern : wellFormed pattern = false := hform (gap, pattern) (List.mem_cons_self ..)
    have hrest := ih fun span hspan => hform span (List.mem_cons_of_mem _ hspan)
    rw [Text.fill, replace, hpattern, hrest]
    rfl

end Fill

/-- **Patterns are replaced in one pass from left to right**, whatever patterns are taken as well
formed. There is exactly one way to cut a text at its spans, and the text is expanded along its
cuts: what stands outside the spans is kept, each span with a well-formed pattern gives way to what
is made for the pattern, and other spans stay. When no pattern is well formed, the text stays as it
is and nothing is drawn.

**Proof sketch.** The scan reads a span exactly where one begins, so its pieces are those of the
only cuts, and they are replaced one after the other. -/
theorem expand_cuts (text : List Char) :
    (∃! cuts : List (List Char × List Char) × List Char, marks.Cuts text cuts.1 cuts.2) ∧
      ∀ (spans : List (List Char × List Char)) (final : List Char), marks.Cuts text spans final →
        expand text = Text.fill (replace isWellFormed) spans final ∧
          ∀ wellFormed : List Char → Bool,
            expandBy wellFormed text = Text.fill (replace wellFormed) spans final ∧
              ((∀ span ∈ spans, wellFormed span.2 = false) →
                ∀ source : Source, (expandBy wellFormed text).run source = (text, source)) := by
  refine ⟨marks.existsUnique_cuts text, fun spans final hcuts => ⟨expandBy_of_cuts hcuts,
    fun wellFormed => ⟨expandBy_of_cuts hcuts, fun hform source => ?_⟩⟩⟩
  rw [expandBy_of_cuts hcuts, fill_of_cuts hcuts hform, run_pure]

/-- A span whose pattern begins with a slash and is not well formed, then one that is replaced, and
a slash that begins no span. -/
theorem expand_cuts_slashes :
    marks.Cuts "id://[a-/7/[0-9]{2}/-/".toList
      [("id:".toList, "/[a-".toList), (['7'], "[0-9]{2}".toList)] "-/".toList ∧
    ((expand "id://[a-/7/[0-9]{2}/-/".toList).run default).1 = "id://[a-/700-/".toList ∧
    marks.Cuts "-//[a-/".toList [(['-'], "/[a-".toList)] [] ∧
    (expand "-//[a-/".toList).run default = ("-//[a-/".toList, default) := by
  have hopen : IsBody "/[a-".toList := by decide
  have hbody : IsBody "[0-9]{2}".toList := by decide
  have hlast : marks.Cuts [] [] [] := .last (Text.isGap_nil _ _)
  have hfinal : marks.Cuts "-/".toList [] "-/".toList :=
    (hlast.cons_last (c := '/') (by decide)).cons_last (c := '-') (by decide)
  have hdigits : marks.Cuts "7/[0-9]{2}/-/".toList [(['7'], "[0-9]{2}".toList)] "-/".toList :=
    (hfinal.cons_mark hbody).cons_plain (by decide)
  have hcuts : marks.Cuts "id://[a-/7/[0-9]{2}/-/".toList
      [("id:".toList, "/[a-".toList), (['7'], "[0-9]{2}".toList)] "-/".toList :=
    (((hdigits.cons_mark hopen).cons_plain (c := ':') (by decide)).cons_plain (c := 'd')
      (by decide)).cons_plain (c := 'i') (by decide)
  have hstays : marks.Cuts "-//[a-/".toList [(['-'], "/[a-".toList)] [] :=
    (hlast.cons_mark hopen).cons_plain (by decide)
  refine ⟨hcuts, ?_, hstays, ?_⟩
  · rw [((expand_cuts _).2 _ _ hcuts).1]
    cbv
  · refine (((expand_cuts _).2 _ _ hstays).2 isWellFormed).2 (fun span hspan => ?_) default
    obtain rfl := List.mem_singleton.1 hspan
    cbv

end Specimen.Pattern
