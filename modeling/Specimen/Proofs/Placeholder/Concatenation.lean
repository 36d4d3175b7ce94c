import Specimen.Generation.Setup
import Specimen.Proofs.Random.Draws
import Specimen.Proofs.Text.TokenGrammar

set_option autoImplicit false

/-!
# Texts side by side

A blank between two texts keeps their tokens apart: it carries no name on, begins no arguments, and
is part of arguments only when a parenthesis before it is still open. The two texts then mean side
by side what they mean alone, written as text. That a text may be a single token, which means a
value of its own kind, makes no difference.

## Main definitions

* `Specimen.Text.IsTight` — a text that begins and ends without blanks.
* `Specimen.Token.IsClosed` — every parenthesis that is opened in a text is followed by a closing
  one.

## Main results

* `Specimen.segments_append_blank` — the segments of the two texts, with the blank between them.
* `Specimen.Engine.asText_resolve` — a single token replaced in its text gives its value as text.
* `Specimen.Engine.run_resolve_append` — what two texts mean side by side.
-/

namespace Specimen

namespace Text

/-! ## Texts without blanks at their ends -/

/-- The text begins and ends with characters that are not blank, and has some. -/
def IsTight (text : List Char) : Prop :=
  (∃ c ∈ text.head?, isBlank c = false) ∧ ∃ c ∈ text.getLast?, isBlank c = false

/-- Such a text is not trimmed. -/
theorem IsTight.trim_eq {text : List Char} (h : IsTight text) : trim text = text := by
  obtain ⟨⟨first, hfirst, hstart⟩, last, hlast, hend⟩ := h
  have hdrop : ∀ {text : List Char} {c : Char}, c ∈ text.head? → isBlank c = false →
      text.dropWhile isBlank = text := by
    intro text c hc hblank
    obtain ⟨rest, rfl⟩ := List.head?_eq_some_iff.1 hc
    exact List.dropWhile_cons_of_neg (by simp [hblank])
  rw [← List.head?_reverse] at hlast
  rw [trim, trimStart, hdrop hfirst hstart, trimEnd, hdrop hlast hend, List.reverse_reverse]

/-- Two such texts with a blank between them are one. -/
theorem IsTight.append {first second : List Char} (h : IsTight first) (hsecond : IsTight second) :
    IsTight (first ++ ' ' :: second) := by
  obtain ⟨⟨c, hc, hstart⟩, -⟩ := h
  obtain ⟨-, d, hd, hend⟩ := hsecond
  refine ⟨⟨c, ?_, hstart⟩, d, ?_, hend⟩
  · exact List.mem_head?_append_of_mem_head? hc
  · exact List.mem_getLast?_append_of_mem_getLast? (List.mem_getLast?_cons hd)

end Text

namespace Token

/-! ## Tokens before a blank -/

/-- Behind every opening parenthesis of the text stands a closing one. -/
def IsClosed (text : List Char) : Prop :=
  ∀ before after, text = before ++ '(' :: after → ')' ∈ after

/-- Nothing before a text closes its parentheses. -/
theorem IsClosed.of_append (first : List Char) {second : List Char}
    (h : IsClosed (first ++ second)) : IsClosed second := by
  rintro before after rfl
  exact h (first ++ before) after (List.append_assoc ..).symm

/-- A blank ends arguments that are closed. -/
theorem arguments?_append_blank {text : List Char} (h : IsClosed text) (more : List Char) :
    arguments? (text ++ ' ' :: more) = arguments? text := by
  cases harguments : arguments? text with
  | some arguments => exact arguments?_append harguments _
  | none =>
    unfold arguments? at harguments ⊢
    cases text with
    | nil => rfl
    | cons c rest =>
      by_cases hopen : c = '('
      · subst hopen
        have hnone : Text.cut? ')' rest = none := Option.map_eq_none_iff.1 harguments
        exact absurd (h [] rest rfl) (Text.cut?_eq_none_iff.1 hnone)
      · split
        · rename_i hcons
          exact absurd (List.cons.inj hcons).1 hopen
        · rfl

/-- The token behind an at sign is the same before a blank. -/
theorem at?_append_blank {rest : List Char} (h : IsClosed rest) (more : List Char) :
    at? (rest ++ ' ' :: more) = at? rest := by
  cases rest with
  | nil => rfl
  | cons first rest =>
    have htail : nameTail (rest ++ ' ' :: more) = nameTail rest :=
      nameTail_append_blank rest fun c hc => by
        obtain rfl := Option.some.inj hc
        decide
    have hclosed : IsClosed (rest.drop (nameTail rest).length) := by
      refine IsClosed.of_append (first :: rest.take (nameTail rest).length) ?_
      rwa [List.cons_append, List.take_append_drop]
    simp only [List.cons_append, at?, htail,
      List.drop_append_of_le_length (length_nameTail_le rest), arguments?_append_blank hclosed]

end Token

/-- **A blank keeps the tokens of two texts apart.** -/
theorem segmentsFrom_append_blank {taken : Nat} {first : List Char} (htaken : taken ≤ first.length)
    (h : Token.IsClosed first) (second : List Char) :
    segmentsFrom taken (first ++ ' ' :: second) =
      segmentsFrom taken first ++ .plain ' ' :: segments second := by
  induction first generalizing taken with
  | nil =>
    obtain rfl := Nat.le_zero.1 htaken
    rfl
  | cons c rest ih =>
    have hrest : Token.IsClosed rest := Token.IsClosed.of_append [c] h
    cases taken with
    | succ taken => exact ih (Nat.le_of_succ_le_succ htaken) hrest
    | zero =>
      rw [List.cons_append, segmentsFrom, segmentsFrom, Token.at?_append_blank hrest]
      split
      · rename_i token hfound
        obtain ⟨rfl, hat⟩ := Option.ite_none_right_eq_some.1 hfound
        have hlength := (Token.isProper_of_at? hat).2.length_le
        rw [ih (by rw [List.length_cons] at hlength; omega) hrest, List.cons_append]
      · rw [ih (Nat.zero_le _) hrest, List.cons_append]

/-- The segments of two texts, with a blank between them. -/
theorem segments_append_blank {first : List Char} (h : Token.IsClosed first)
    (second : List Char) :
    segments (first ++ ' ' :: second) = segments first ++ .plain ' ' :: segments second :=
  segmentsFrom_append_blank (Nat.zero_le _) h second

/-! ## Values side by side -/

/-- The elements of two lists one after the other. -/
theorem Draw.forEach_append {α β : Type} (step : α → Draw β) (first second : List α) :
    forEach step (first ++ second) =
      (do
        let left ← forEach step first
        let right ← forEach step second
        pure (left ++ right)) := by
  induction first with
  | nil => rfl
  | cons x first ih =>
    rw [List.cons_append, forEach, ih]
    rfl

namespace Engine

variable (engine : Engine) (references : References)

/-- **A single token replaced in its text** gives its value as text: the two ways to resolve a text
agree.

**Proof sketch.** A tight text that is a token is its only segment, so both ways resolve one token,
and write its value as text or leave it as it is. -/
theorem asText_resolve {text : List Char} (h : Text.IsTight text) :
    Json.asText <$> engine.resolve references text =
      String.ofList <$> engine.resolveSegments references text := by
  unfold resolve
  split
  · rename_i token hwhole
    have hsegments : segments text = [.token token] ∧ token.text = text := by
      rw [Token.whole?, h.trim_eq] at hwhole
      unfold Token.exactly? at hwhole
      split at hwhole
      · obtain ⟨hat, hwritten⟩ := Option.filter_eq_some_iff.1 hwhole
        exact ⟨segments_at hat (of_decide_eq_true hwritten), of_decide_eq_true hwritten⟩
      · cases hwhole
    simp only [resolveSegments, hsegments.1, Draw.forEach, resolveSegment, map_bind, bind_assoc,
      pure_bind, map_pure]
    refine congrArg _ (funext fun result => ?_)
    cases result with
    | ok value => simp
    | error failure => simp [hsegments.2, Json.asText]
  · simp only [map_bind, map_pure, Json.asText]
    exact (map_eq_pure_bind ..).symm

/-- What takes the place of the segments of two texts with a blank between them. -/
theorem resolveSegments_append_blank {first : List Char} (h : Token.IsClosed first)
    (second : List Char) :
    engine.resolveSegments references (first ++ ' ' :: second) =
      (do
        let left ← engine.resolveSegments references first
        let right ← engine.resolveSegments references second
        pure (left ++ ' ' :: right)) := by
  simp only [resolveSegments, segments_append_blank h, Draw.forEach_append, Draw.forEach,
    resolveSegment, bind_assoc, pure_bind, List.flatten_append, List.flatten_cons,
    List.singleton_append]

/-- The two texts with the blank are one step after the other. -/
theorem asText_resolve_append {first second : List Char} (hfirst : Text.IsTight first)
    (hsecond : Text.IsTight second) (hclosed : Token.IsClosed first) :
    Json.asText <$> engine.resolve references (first ++ ' ' :: second) =
      (do
        let left ← Json.asText <$> engine.resolve references first
        let right ← Json.asText <$> engine.resolve references second
        pure (left ++ " " ++ right)) := by
  have hjoin : ∀ left right : List Char,
      String.ofList (left ++ ' ' :: right) = String.ofList left ++ " " ++ String.ofList right := by
    intro left right
    rw [String.append_assoc, ← List.singleton_append, String.ofList_append, String.ofList_append]
  rw [engine.asText_resolve references (hfirst.append hsecond),
    engine.resolveSegments_append_blank references hclosed, engine.asText_resolve references hfirst,
    engine.asText_resolve references hsecond]
  simp only [map_bind, map_pure, bind_map_left, hjoin]

/-- **Two texts side by side mean what they mean alone**, written as text with the blank between
them, when the first one is closed and neither has blanks at its ends. The second one is resolved in
the state that the first one leaves, and the state after both is the same.

**Proof sketch.** Written as text, the meaning of a tight text is that of its segments. The blank
belongs to no token, as the first text has no open parenthesis, so the segments of both texts are
those of each with the blank between them. -/
theorem run_resolve_append {first second : List Char} (hfirst : Text.IsTight first)
    (hsecond : Text.IsTight second) (hclosed : Token.IsClosed first) (source : Source) :
    ((engine.resolve references (first ++ ' ' :: second)).run source).map Json.asText id =
      let (left, reached) := (engine.resolve references first).run source
      let (right, finish) := (engine.resolve references second).run reached
      (left.asText ++ " " ++ right.asText, finish) :=
  congrFun (engine.asText_resolve_append references hfirst hsecond hclosed) source

/-- Two tokens, one with an earlier value that is no text and one without a value: side by side, the
first one gives its value as text and the second one stays. -/
theorem run_resolve_append_tokens :
    Text.IsTight "@b".toList ∧ Text.IsTight "(@c.".toList ∧ Token.IsClosed "@b".toList ∧
    (((standard ⟨.enUS, 0⟩).resolve (Dictionary.get? [("b", .num (.int 1))])
        "@b (@c.".toList).run default).map Json.asText id = ("1 (@c.", default) := by
  have hfirst : Text.IsTight "@b".toList := ⟨⟨'@', rfl, by decide⟩, 'b', rfl, by decide⟩
  have hsecond : Text.IsTight "(@c.".toList := ⟨⟨'(', rfl, by decide⟩, '.', rfl, by decide⟩
  have hclosed : Token.IsClosed "@b".toList := by
    intro before after h
    have hmem : '(' ∈ "@b".toList := by
      rw [h]
      simp
    exact absurd hmem (by decide)
  exact ⟨hfirst, hsecond, hclosed, run_resolve_append _ _ hfirst hsecond hclosed _⟩

end Engine

end Specimen
