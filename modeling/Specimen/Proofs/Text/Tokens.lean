import Specimen.Proofs.Scope.Path
import Specimen.Proofs.Text.Plain

set_option autoImplicit false

/-!
# Tokens that a text refers to

A text asks for an earlier value only by the names of its tokens. The token that a whole text is,
blanks around it apart, is one of its segments, too: blanks carry no name on, and the arguments end
at their parenthesis.

## Main results

* `Specimen.Token.segments_of_whole?` — the segments of a text that is a token.
* `Specimen.Engine.resolve_eq_of_resolveToken`, `Specimen.Engine.resolve_congr` — what a text means
  depends on what its tokens mean, and on their names only, as far as references go.
* `Specimen.Engine.resolveToken_of_value`, `Specimen.Engine.run_resolveToken_of_unknown` — tokens
  that name a value, and tokens that name nothing.
-/

namespace Specimen

namespace Token

/-! ## Tokens before blanks -/

/-- What carries a name on is part of the text. -/
theorem length_nameTail_le (text : List Char) : (nameTail text).length ≤ text.length := by
  fun_induction nameTail text <;> simp only [List.length_cons, List.length_nil] <;> omega

/-- A blank is neither a character of a name nor a point nor a parenthesis. -/
theorem of_isBlank {c : Char} (h : Text.isBlank c = true) :
    isNameChar c = false ∧ c ≠ '.' ∧ c ≠ '(' ∧ c ≠ '@' := by
  refine ⟨?_, ?_, ?_, ?_⟩
  · by_contra hname
    rw [isBlank_of_isNameChar (by simpa using hname)] at h
    cases h
  all_goals
    rintro rfl
    revert h
    decide

/-- What begins with a blank carries no name on. -/
theorem nameTail_append_blank (text : List Char) {more : List Char}
    (h : ∀ c ∈ more.head?, Text.isBlank c = true) : nameTail (text ++ more) = nameTail text := by
  have hother : ∀ (c : Char) (rest : List Char), c ≠ '.' →
      nameTail (c :: rest) = if isNameChar c then c :: nameTail rest else [] :=
    fun c rest hne => nameTail.eq_2 c rest fun _ _ heq _ => hne heq
  fun_induction nameTail text with
  | case1 c rest hc ih => rw [List.cons_append, List.cons_append, nameTail.eq_1, if_pos hc, ih]
  | case2 c rest hc => rw [List.cons_append, List.cons_append, nameTail.eq_1, if_neg hc]
  | case3 c rest hpoint hc ih =>
    have hne : c ≠ '.' := by
      rintro rfl
      cases hc
    rw [List.cons_append, hother c _ hne, if_pos hc, ih]
  | case4 c rest hpoint hc =>
    by_cases hne : c = '.'
    · -- Nothing stands behind the point, so that the blanks do.
      cases rest with
      | cons d rest => exact absurd rfl (hpoint d rest hne)
      | nil =>
        subst hne
        cases more with
        | nil => rfl
        | cons b more =>
          obtain ⟨hname, -⟩ := of_isBlank (h b rfl)
          rw [List.cons_append, List.nil_append, nameTail.eq_1, if_neg (by simp [hname])]
    · rw [List.cons_append, hother c _ hne, if_neg hc]
  | case5 =>
    cases more with
    | nil => rfl
    | cons b more =>
      obtain ⟨hname, hpoint, -⟩ := of_isBlank (h b rfl)
      rw [List.nil_append, hother b more hpoint, if_neg (by simp [hname])]

/-- Arguments end at their parenthesis. -/
theorem arguments?_append {text arguments : List Char} (h : arguments? text = some arguments)
    (more : List Char) : arguments? (text ++ more) = some arguments := by
  unfold arguments? at h
  split at h
  · obtain ⟨⟨before, after⟩, hcut, rfl⟩ := Option.map_eq_some_iff.1 h
    obtain ⟨rfl, hbefore⟩ := Text.cut?_eq_some_iff.1 hcut
    have hmore : Text.cut? ')' ((before ++ ')' :: after) ++ more) = some (before, after ++ more) :=
      Text.cut?_eq_some_iff.2 ⟨by simp, hbefore⟩
    rw [List.cons_append, arguments?, hmore]
    rfl
  · cases h

/-- A token that goes to the end of a text is the same before blanks. -/
theorem at?_append_blanks {rest : List Char} {token : Token} (h : at? rest = some token)
    (htext : token.text = '@' :: rest) {blanks : List Char}
    (hblanks : ∀ c ∈ blanks, Text.isBlank c = true) : at? (rest ++ blanks) = some token := by
  cases rest with
  | nil => cases h
  | cons first rest =>
    simp only [at?, Option.ite_none_right_eq_some, Option.some.injEq] at h
    obtain ⟨hletter, rfl⟩ := h
    have htail := nameTail_append_blank rest fun c hc => hblanks c (List.mem_of_mem_head? hc)
    simp only [List.cons_append, at?, hletter, if_true, htail,
      List.drop_append_of_le_length (length_nameTail_le rest), Option.some.injEq, Token.mk.injEq,
      true_and]
    cases harguments : arguments? (rest.drop (nameTail rest).length) with
    | some arguments => exact arguments?_append harguments blanks
    | none =>
      -- Without arguments the name is all there is, and a blank begins no arguments.
      simp only [harguments, Token.text, List.cons.injEq, true_and] at htext
      rw [htext, List.drop_length, List.nil_append]
      cases blanks with
      | nil => rfl
      | cons b blanks =>
        obtain ⟨-, -, hopen, -⟩ := of_isBlank (hblanks b (List.mem_cons_self ..))
        unfold arguments?
        split
        · rename_i heq
          exact absurd (List.cons.inj heq).1 hopen
        · rfl

end Token

/-! ## Tokens and segments -/

/-- Before the first at sign all characters stand for themselves. -/
theorem segments_append {first : List Char} (h : '@' ∉ first) (rest : List Char) :
    segments (first ++ rest) = first.map .plain ++ segments rest := by
  induction first with
  | nil => rfl
  | cons c first ih =>
    obtain ⟨hc, hfirst⟩ := not_or.1 (mt List.mem_cons.2 h)
    have hrest := ih hfirst
    rw [segments] at hrest
    rw [segments, List.cons_append, segmentsFrom, if_neg (Ne.symm hc), hrest]
    rfl

/-- What belongs to the token before makes no segments. -/
theorem segmentsFrom_length_append (taken rest : List Char) :
    segmentsFrom taken.length (taken ++ rest) = segments rest := by
  induction taken with
  | nil => rfl
  | cons c taken ih => exact ih

/-- A token at the front of a text is the first segment, and what stands behind it gives the
others. -/
theorem segments_at_append {rest more : List Char} {token : Token}
    (h : Token.at? rest = some token) (htext : '@' :: rest = token.text ++ more) :
    segments ('@' :: rest) = .token token :: segments more := by
  obtain ⟨taken, htaken⟩ : ∃ taken, token.text = '@' :: taken := by
    unfold Token.text
    split <;> exact ⟨_, rfl⟩
  rw [htaken, List.cons_append, List.cons.injEq] at htext
  rw [segments, segmentsFrom, if_pos rfl, h]
  dsimp only
  rw [htaken, htext.2, List.length_cons, Nat.add_sub_cancel, segmentsFrom_length_append]

/-- A token that goes to the end of a text is the last segment. -/
theorem segments_at {rest : List Char} {token : Token} (h : Token.at? rest = some token)
    (htext : token.text = '@' :: rest) : segments ('@' :: rest) = [.token token] := by
  have hnil : '@' :: rest = token.text ++ [] := by rw [htext, List.append_nil]
  exact segments_at_append h hnil

/-- **The segments of a text that is a token** are the token and the blanks around it.

**Proof sketch.** The blanks before the at sign are segments of their own. The token that is read
there is the one of the trimmed text, because only blanks follow. -/
theorem Token.segments_of_whole? {text : List Char} {token : Token}
    (h : whole? text = some token) :
    ∃ lead trail : List Char,
      segments text = lead.map .plain ++ .token token :: trail.map .plain := by
  obtain ⟨lead, trail, htext, hlead, htrail⟩ := Text.exists_eq_trim text
  have hplain : ∀ blanks : List Char, (∀ c ∈ blanks, Text.isBlank c = true) → '@' ∉ blanks :=
    fun blanks hblanks hmem => (of_isBlank (hblanks _ hmem)).2.2.2 rfl
  unfold whole? exactly? at h
  split at h
  · rename_i rest htrim
    obtain ⟨hfound, hwritten⟩ := Option.filter_eq_some_iff.1 h
    have hat := at?_append_blanks hfound (of_decide_eq_true hwritten) htrail
    have htail : segments trail = trail.map .plain := by
      simpa [segments, segmentsFrom] using segments_append (hplain trail htrail) []
    refine ⟨lead, trail, ?_⟩
    rw [htext, htrim, segments_append (hplain lead hlead), List.cons_append,
      segments_at_append hat (by rw [of_decide_eq_true hwritten, List.cons_append]), htail]
  · cases h

/-- The token that a text is stands among its segments. -/
theorem Token.mem_segments_of_whole? {text : List Char} {token : Token}
    (h : whole? text = some token) : Segment.token token ∈ segments text := by
  obtain ⟨lead, trail, hsegments⟩ := segments_of_whole? h
  rw [hsegments]
  exact List.mem_append_right _ (List.mem_cons_self ..)

/-! ## What references are asked for -/

/-- Steps that are the same on the elements of a list are the same on the list. -/
theorem Draw.forEach_congr {α β : Type} {first second : α → Draw β} {items : List α}
    (h : ∀ item ∈ items, first item = second item) :
    forEach first items = forEach second items := by
  induction items with
  | nil => rfl
  | cons item items ih =>
    rw [forEach, forEach, h item (List.mem_cons_self ..),
      ih fun other ho => h other (List.mem_cons_of_mem _ ho)]

/-- **What a text means depends on what its tokens mean.** -/
theorem Engine.resolve_eq_of_resolveToken {engine other : Engine} {first second : References}
    {text : List Char}
    (h : ∀ token, Segment.token token ∈ segments text →
      engine.resolveToken first token = other.resolveToken second token) :
    engine.resolve first text = other.resolve second text := by
  have hsegments : engine.resolveSegments first text = other.resolveSegments second text := by
    rw [resolveSegments, resolveSegments, Draw.forEach_congr fun segment hmem => ?_]
    cases segment with
    | plain c => rfl
    | token token => rw [resolveSegment, resolveSegment, h token hmem]
  unfold resolve
  split
  · rename_i token hwhole
    rw [h token (Token.mem_segments_of_whole? hwhole)]
  · rw [hsegments]

/-- It depends on the names of its tokens only, as far as references go. -/
theorem Engine.resolve_congr (engine : Engine) {first second : References} {text : List Char}
    (h : ∀ token, Segment.token token ∈ segments text →
      first (String.ofList token.name) = second (String.ofList token.name)) :
    engine.resolve first text = engine.resolve second text :=
  resolve_eq_of_resolveToken fun token hmem => by
    rw [resolveToken, resolveToken, lookUp, lookUp, h token hmem]

/-- A token without arguments means the earlier value of its name. -/
theorem Engine.resolveToken_of_value (engine : Engine) {references : References} {name : List Char}
    {value : Json} (h : references (String.ofList name) = some value) :
    engine.resolveToken references ⟨name, none⟩ = pure value := by
  have hnone : Argument.readList engine.coercers [] = [] := rfl
  simp only [resolveToken, Option.getD_none, hnone, lookUp, List.isEmpty_nil, if_true, h]

/-- Extensions do not know a name without forms. -/
theorem Extensions.call_of_contains {extensions : Extensions} {name : String}
    (h : extensions.contains name = false) (arguments : List Json) :
    extensions.call name arguments = .error (.unknown name) := by
  obtain ⟨hplain, harguments⟩ := Bool.or_eq_false_iff.1 h
  simp only [Dictionary.contains, Option.isSome_eq_false_iff, Option.isNone_iff_eq_none]
    at hplain harguments
  simp only [call, hplain, harguments]

/-- A token has no value when neither an earlier value nor a function has its name. -/
theorem Engine.run_resolveToken_of_unknown (engine : Engine) {references : References}
    {name : List Char} (h : references (String.ofList name) = none)
    (hregistry : engine.registry.contains (String.ofList name) = false)
    (hextensions : engine.extensions.contains (String.ofList name) = false) (source : Source) :
    (engine.resolveToken references ⟨name, none⟩).run.run source =
      (.error (.unknown (String.ofList name)), source) := by
  have hnone : Argument.readList engine.coercers [] = [] := rfl
  have hdispatch : engine.dispatch (String.ofList name) [] source =
      (.error (.unknown (String.ofList name)), source) := by
    simp only [dispatch, hregistry, Bool.false_eq_true, if_false,
      Extensions.call_of_contains hextensions]
  simp only [resolveToken, Option.getD_none, hnone, lookUp, List.isEmpty_nil, if_true, h]
  exact hdispatch

end Specimen
