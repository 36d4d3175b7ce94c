import Specimen.Generation.Setup
import Specimen.Proofs.Random.Draws
import Specimen.Proofs.Text.Cuts
import Specimen.Proofs.Text.TokenGrammar

set_option autoImplicit false

/-!
# Replacing tokens in one pass

A text is cut from left to right: the next token begins at the first place where any token begins,
and it is the longest one there. There is exactly one way to cut a text like this. What the text
means is written along the cuts, with the gaps between tokens as they are and each token replaced by
its value as text, or left as written when it has none. What takes the place of a token is not read
again.

## Main definitions

* `Specimen.Token.marks` — tokens as marks of a text.
* `Specimen.Engine.replace` — what takes the place of a token.
* `Specimen.Engine.FailsAll` — none of some tokens has a value.

## Main results

* `Specimen.Token.segments_of_cuts` — the segments of a text are those of its cuts.
* `Specimen.Engine.resolve_cuts` — the meaning of a text is written along its cuts.
-/

namespace Specimen

/-- The token that a segment is. -/
def Segment.token? : Segment → Option Token
  | .plain _ => none
  | .token found => some found

namespace Token

/-! ## Cutting texts at tokens -/

/-- A token stands at the front of the text. -/
def Begins (text : List Char) : Prop := ∃ token : Token, token.IsProper ∧ token.text <+: text

/-- Tokens are read where they begin, and nowhere else. -/
theorem begins_cons_iff {c : Char} {rest : List Char} :
    Begins (c :: rest) ↔ (if c = '@' then at? rest else none) ≠ none := by
  constructor
  · rintro ⟨token, hproper, htext⟩
    obtain ⟨_, hcons, -⟩ := exists_of_text_prefix htext
    obtain ⟨rfl, rfl⟩ := List.cons.inj hcons
    rw [if_pos rfl]
    exact fun hnone => at?_eq_none_iff.1 hnone token hproper htext
  · intro h
    obtain ⟨token, htoken⟩ := Option.ne_none_iff_exists'.1 h
    obtain ⟨rfl, hat⟩ := Option.ite_none_right_eq_some.1 htoken
    exact ⟨token, isProper_of_at? hat⟩

/-- A token that is the longest one somewhere begins there. -/
theorem IsLongest.begins {token : Token} {text : List Char} (h : IsLongest token text) :
    Begins text := ⟨token, h.1, h.2.1⟩

/-- Where tokens begin, one is the longest. -/
theorem begins_iff (text : List Char) :
    Begins text ↔ ∃ token : Token, token.text <+: text ∧ IsLongest token text := by
  constructor
  · rintro ⟨token, hproper, htext⟩
    obtain ⟨rest, rfl, -⟩ := exists_of_text_prefix htext
    obtain ⟨found, hfound⟩ := exists_at? hproper htext
    exact ⟨found, (isProper_of_at? hfound).2, at?_eq_some_iff.1 hfound⟩
  · rintro ⟨token, -, hlongest⟩
    exact hlongest.begins

/-- Tokens are what a text is cut at, the longest one at each place. -/
def marks : Text.Marks Token where
  written := Token.text
  Begins := Begins
  Stands := IsLongest
  written_ne_nil token := by
    rw [text_eq]
    exact List.cons_ne_nil _ _
  begins_iff := begins_iff
  unique _ _ _ _ hfirst _ hsecond := hfirst.unique hsecond

/-- What is read behind an at sign is a mark. -/
theorem cuts_at {rest more final : List Char} {token : Token} {parts : List (List Char × Token)}
    (h : at? rest = some token) (htext : '@' :: rest = token.text ++ more)
    (hmore : marks.Cuts more parts final) :
    marks.Cuts ('@' :: rest) (([], token) :: parts) final := by
  have hlongest := at?_eq_some_iff.1 h
  rw [htext] at hlongest ⊢
  exact hmore.cons_mark hlongest

/-- A character where no token begins is a segment of its own. -/
theorem segments_cons {c : Char} {rest : List Char} (h : ¬Begins (c :: rest)) :
    segments (c :: rest) = .plain c :: segments rest := by
  have hnone : (if c = '@' then at? rest else none) = none := by
    by_contra hsome
    exact h (begins_cons_iff.2 hsome)
  simp only [segments, segmentsFrom, hnone]

/-- A token at the front of a text is the first segment. -/
theorem segments_text_append {token : Token} {rest : List Char}
    (h : IsLongest token (token.text ++ rest)) :
    segments (token.text ++ rest) = .token token :: segments rest := by
  have htext : token.text ++ rest = '@' :: (token.name ++ token.argumentText ++ rest) := by
    rw [text_eq, List.cons_append]
  rw [htext] at h ⊢
  exact segments_at_append (at?_eq_some_iff.2 h) htext.symm

/-- The segments of a text are those of its cuts. -/
theorem segments_of_cuts {text final : List Char} {parts : List (List Char × Token)}
    (h : marks.Cuts text parts final) :
    segments text = Text.partsOfCuts .plain .token parts final :=
  h.scan_eq (fun _ _ => segments_cons) rfl fun _ _ => segments_text_append

/-- Characters outside tokens are no tokens. -/
theorem filterMap_map_plain (text : List Char) :
    (text.map Segment.plain).filterMap Segment.token? = [] := by
  simp [Segment.token?]

/-- The tokens among the segments are those of the cuts. -/
theorem filterMap_partsOfCuts (parts : List (List Char × Token)) (final : List Char) :
    (Text.partsOfCuts Segment.plain .token parts final).filterMap Segment.token? =
      parts.map Prod.snd := by
  induction parts with
  | nil => exact filterMap_map_plain final
  | cons part parts ih =>
    rw [Text.partsOfCuts_cons, List.filterMap_append, filterMap_map_plain, List.filterMap_cons, ih]
    rfl

end Token

/-! ## Filling in values -/

namespace Engine

variable (engine : Engine) (references : References)

/-- What takes the place of a token: its value as text, or the token as written when it has no
value. -/
def replace (token : Token) : Draw (List Char) := fun source =>
  match (engine.resolveToken references token).run.run source with
  | (.ok value, reached) => (value.asText.toList, reached)
  | (.error _, reached) => (token.text, reached)

/-- No token has a value, each asked in the state that the ones before it leave. -/
def FailsAll : List Token → Source → Prop
  | [], _ => True
  | token :: rest, source =>
    ∃ failure reached, (engine.resolveToken references token).run.run source =
      (.error failure, reached) ∧ FailsAll rest reached

/-- It is what the segment that is the token becomes. -/
theorem resolveSegment_token (token : Token) :
    engine.resolveSegment references (.token token) = engine.replace references token := by
  funext source
  change ((engine.resolveSegment references (.token token)).run source) = _
  rw [resolveSegment, run_bind, replace]
  rcases (engine.resolveToken references token).run.run source with ⟨value | failure, reached⟩
  all_goals rfl

variable {engine references}

section Cuts

variable {text final : List Char} {parts : List (List Char × Token)}
  (hcuts : Token.marks.Cuts text parts final)

include hcuts

/-- The segments of a text are resolved along its cuts. -/
theorem run_resolveSegments_of_cuts (source : Source) :
    (engine.resolveSegments references text).run source =
      (Text.fill (engine.replace references) parts final).run source := by
  have hfill := Text.run_forEach_partsOfCuts (engine.resolveSegment references) .plain .token
    (fun _ => rfl) parts final source
  rw [← Token.segments_of_cuts hcuts] at hfill
  simp only [resolveSegment_token] at hfill
  rw [← hfill]
  rfl

/-- When no token has a value, the cuts are put together as they were. -/
theorem fill_of_failsAll {source : Source}
    (h : engine.FailsAll references (parts.map Prod.snd) source) :
    ((Text.fill (engine.replace references) parts final).run source).1 = text := by
  induction hcuts generalizing source with
  | last => rfl
  | @mark gap rest final token parts _ _ _ ih =>
    obtain ⟨failure, reached, htoken, hrest⟩ := h
    have hreplace : (engine.replace references token).run source = (token.text, reached) := by
      change engine.replace references token source = _
      rw [replace, htoken]
    rw [Text.fill, run_bind, hreplace, run_bind, run_pure]
    dsimp only
    rw [ih hrest]
    rfl

end Cuts

/-- **Tokens are replaced in one pass from left to right.** There is exactly one way to cut a text,
and along its cuts the text is written: a text that is more, or less, than one token between blanks
becomes a text in which each token gives way to its value, and tokens without values stay. When no
token has a value, any text stays as it is.

**Proof sketch.** The scan reads the longest token where one begins, so its segments are those of
the only cuts. A text that is one token between blanks has this token as its only cut, and then both
ways to resolve it fail together. -/
theorem resolve_cuts (text : List Char) :
    (∃! cuts : List (List Char × Token) × List Char, Token.marks.Cuts text cuts.1 cuts.2) ∧
      ∀ (parts : List (List Char × Token)) (final : List Char), Token.marks.Cuts text parts final →
        ∀ (engine : Engine) (references : References) (source : Source),
          ((∀ token : Token, token.IsProper → Text.trim text ≠ token.text) →
            (engine.resolve references text).run source =
              ((Text.fill (engine.replace references) parts final).run source).map (fun filled =>
                Json.str (String.ofList filled)) id) ∧
          (engine.FailsAll references (parts.map Prod.snd) source →
            ((engine.resolve references text).run source).1 = .str (String.ofList text)) := by
  refine ⟨Token.marks.existsUnique_cuts text, fun parts final hcuts engine references source => ?_⟩
  have hnone : Token.whole? text = none → (engine.resolve references text).run source =
      ((Text.fill (engine.replace references) parts final).run source).map (fun filled =>
        Json.str (String.ofList filled)) id := by
    intro hwhole
    rw [← run_resolveSegments_of_cuts hcuts, resolve, hwhole]
    rfl
  refine ⟨fun hproper => hnone (Token.whole?_eq_none_iff.2 hproper), fun hfails => ?_⟩
  cases hwhole : Token.whole? text with
  | none => rw [hnone hwhole, Prod.map_fst, fill_of_failsAll hcuts hfails]
  | some token =>
    -- The token is the only one among the segments, and so among the cuts.
    obtain ⟨lead, trail, hlead⟩ := Token.segments_of_whole? hwhole
    have htokens := Token.filterMap_partsOfCuts parts final
    rw [← Token.segments_of_cuts hcuts, hlead] at htokens
    have hparts : parts.map Prod.snd = [token] := by
      rw [← htokens, List.filterMap_append, Token.filterMap_map_plain, List.filterMap_cons,
        Token.filterMap_map_plain]
      rfl
    rw [hparts] at hfails
    obtain ⟨failure, reached, htoken, -⟩ := hfails
    rw [resolve, hwhole, run_bind, htoken]
    rfl

/-- A point behind a name belongs to the gap when no name goes on there; one token has an earlier
value and the other one has none. -/
theorem resolve_cuts_point :
    Token.marks.Cuts "n @b.@c".toList [("n ".toList, ⟨['b'], none⟩), (['.'], ⟨['c'], none⟩)] [] ∧
    (∀ token : Token, token.IsProper → Text.trim "n @b.@c".toList ≠ token.text) ∧
    ((standard ⟨.enUS, 0⟩).resolve (Dictionary.get? [("b", .num (.int 1))])
        "n @b.@c".toList).run default = (.str "n 1.@c", default) ∧
    (standard ⟨.enUS, 0⟩).FailsAll (Dictionary.get? []) [⟨['b'], none⟩, ⟨['c'], none⟩] default ∧
    (((standard ⟨.enUS, 0⟩).resolve (Dictionary.get? []) "n @b.@c".toList).run default).1 =
      .str "n @b.@c" := by
  have hnone : ∀ {c : Char} {rest : List Char},
      (if c = '@' then Token.at? rest else none) = none → ¬Token.marks.Begins (c :: rest) :=
    fun h hbegins => Token.begins_cons_iff.1 hbegins h
  have hlast : Token.marks.Cuts [] [] [] := .last (Text.isGap_nil _ _)
  have hsecond : Token.marks.Cuts "@c".toList [([], ⟨['c'], none⟩)] [] :=
    Token.cuts_at (by decide) rfl hlast
  have hfirst : Token.marks.Cuts "@b.@c".toList [([], ⟨['b'], none⟩), (['.'], ⟨['c'], none⟩)] [] :=
    Token.cuts_at (by decide) rfl (hsecond.cons_plain (hnone (by decide)))
  have hcuts : Token.marks.Cuts "n @b.@c".toList
      [("n ".toList, ⟨['b'], none⟩), (['.'], ⟨['c'], none⟩)] [] :=
    (hfirst.cons_plain (c := ' ') (hnone (by decide))).cons_plain (c := 'n') (hnone (by decide))
  have hproper := Token.whole?_eq_none_iff.1 (show Token.whole? "n @b.@c".toList = none by decide)
  have hfails : (standard ⟨.enUS, 0⟩).FailsAll (Dictionary.get? [])
      [⟨['b'], none⟩, ⟨['c'], none⟩] default := ⟨_, _, rfl, _, _, rfl, trivial⟩
  refine ⟨hcuts, hproper, ?_, hfails, ?_⟩
  · exact ((resolve_cuts _).2 _ _ hcuts _ _ _).1 hproper
  · exact ((resolve_cuts _).2 _ _ hcuts _ _ _).2 hfails

end Engine

end Specimen
