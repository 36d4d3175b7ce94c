import Mathlib.Data.List.Chain
import Mathlib.Data.List.TakeWhile
import Specimen.Proofs.Generation.Run

set_option autoImplicit false

/-!
# Texts without directives

A text can ask for something in two ways, by a pattern between slashes and by a token. One slash
alone begins no pattern, and an at sign begins a token only when a letter follows at once. A text
with neither is copied: both scanners give its characters back one by one, blanks around it and
stray signs included.

## Main definitions

* `Specimen.Token.IsFree` — no at sign of a text stands directly before a letter.

## Main results

* `Specimen.Pattern.run_expand_of_count_le` — a text with at most one slash has no patterns.
* `Specimen.Token.whole?_eq_none`, `Specimen.segments_of_isFree` — a free text has no tokens.
* `Specimen.Engine.run_produceText_plain` — a text without directives is generated as it is.
-/

namespace Specimen

/-- Characters that stand for themselves are copied, and nothing is drawn for them. -/
theorem Draw.run_forEach_copy_append {α : Type} (step : α → Draw (List Char)) (plain : Char → α)
    (h : ∀ c, step (plain c) = pure [c]) (text : List Char) (rest : List α) (source : Source) :
    (forEach step (text.map plain ++ rest)).run source =
      ((text.map fun c => [c]) ++ ((forEach step rest).run source).1,
        ((forEach step rest).run source).2) := by
  induction text with
  | nil => rfl
  | cons c text ih =>
    rw [List.map_cons, List.cons_append, forEach, run_bind, h, run_pure, run_bind, ih]
    rfl

/-- A text of characters that stand for themselves is copied. -/
theorem Draw.run_forEach_copy {α : Type} (step : α → Draw (List Char)) (plain : Char → α)
    (h : ∀ c, step (plain c) = pure [c]) (text : List Char) (source : Source) :
    (forEach step (text.map plain)).run source = (text.map fun c => [c], source) := by
  have hcopy := run_forEach_copy_append step plain h text [] source
  rw [List.append_nil] at hcopy
  rw [hcopy, forEach, run_pure, List.append_nil]

/-! ## Patterns -/

namespace Pattern

/-- A pattern needs a second slash. -/
theorem pattern?_eq_none {rest : List Char} (h : '/' ∉ rest) : pattern? rest = none := by
  cases rest with
  | nil => rfl
  | cons first rest =>
    have hcut : Text.cut? '/' rest = none :=
      Text.cut?_eq_none_iff.2 fun hmem => h (List.mem_cons_of_mem _ hmem)
    simp only [pattern?, hcut]

/-- No slash at all is at most one. -/
theorem count_slash_le {text : List Char} (h : '/' ∉ text) : text.count '/' ≤ 1 := by
  rw [List.count_eq_zero.2 h]
  exact Nat.zero_le 1

/-- A text with at most one slash has no patterns. -/
theorem pieces_of_count_le {text : List Char} (h : text.count '/' ≤ 1) :
    pieces text = text.map .plain := by
  induction text with
  | nil => rfl
  | cons c rest ih =>
    have hrest : pieces rest = rest.map .plain :=
      ih (le_trans (List.count_le_count_cons ..) h)
    have hpattern : (if c = '/' then pattern? rest else none) = none := by
      split
      · rename_i hc
        subst hc
        rw [List.count_cons_self] at h
        exact pattern?_eq_none (List.count_eq_zero.1 (by omega))
      · rfl
    rw [pieces] at hrest ⊢
    simp only [piecesFrom, hpattern, hrest, List.map_cons]

/-- A text with at most one slash is left as it is, and nothing is drawn. -/
theorem run_expand_of_count_le {text : List Char} (h : text.count '/' ≤ 1) (source : Source) :
    (expand text).run source = (text, source) := by
  rw [expand, expandBy, pieces_of_count_le h, run_bind,
    Draw.run_forEach_copy (expandPiece isWellFormed) .plain fun _ => rfl, run_pure,
    ← List.flatMap_def, List.flatMap_singleton']

end Pattern

/-! ## Tokens -/

/-- No at sign of a text stands directly before an ASCII letter. -/
def Token.IsFree (text : List Char) : Prop :=
  text.IsChain fun first second => first = '@' → Text.isAsciiLetter second = false

instance (text : List Char) : Decidable (Token.IsFree text) :=
  inferInstanceAs (Decidable (text.IsChain _))

/-- A text without at signs is free. -/
theorem Token.isFree_of_not_mem {text : List Char} (h : '@' ∉ text) : IsFree text := by
  refine List.isChain_iff_forall_rel_of_append_cons_cons.2 ?_
  rintro first second before after rfl rfl
  exact absurd (by simp) h

/-- Trimming takes away blanks at the two ends. -/
theorem Text.exists_eq_trim (text : List Char) :
    ∃ lead trail : List Char, text = lead ++ (trim text ++ trail) ∧
      (∀ c ∈ lead, isBlank c = true) ∧ ∀ c ∈ trail, isBlank c = true := by
  have hend : ∀ text : List Char,
      text = trimEnd text ++ (text.reverse.takeWhile isBlank).reverse := fun text => by
    rw [trimEnd, ← List.reverse_append, List.takeWhile_append_dropWhile, List.reverse_reverse]
  refine ⟨text.takeWhile isBlank, ((trimStart text).reverse.takeWhile isBlank).reverse, ?_,
    fun c hc => List.mem_takeWhile_imp hc,
    fun c hc => List.mem_takeWhile_imp (List.mem_reverse.1 hc)⟩
  rw [trim, ← hend, trimStart, List.takeWhile_append_dropWhile]

/-- What is left after trimming stands in the text. -/
theorem Text.trim_infix (text : List Char) : trim text <:+: text := by
  obtain ⟨lead, trail, htext, -⟩ := exists_eq_trim text
  exact ⟨lead, trail, by rw [List.append_assoc, ← htext]⟩

namespace Token

/-- Behind an at sign of a free text no token begins. -/
theorem at?_eq_none {rest : List Char} (h : IsFree ('@' :: rest)) : at? rest = none := by
  cases rest with
  | nil => rfl
  | cons first rest =>
    have hletter : Text.isAsciiLetter first = false := (List.isChain_cons_cons.1 h).1 rfl
    simp only [at?, hletter, Bool.false_eq_true, if_false]

/-- A free text is no token. -/
theorem whole?_eq_none {text : List Char} (h : IsFree text) : whole? text = none := by
  have htrim : IsFree (Text.trim text) := List.IsChain.infix h (Text.trim_infix text)
  unfold whole?
  generalize Text.trim text = inner at htrim
  unfold exactly?
  split
  · rw [at?_eq_none htrim]
    rfl
  · rfl

end Token

/-- A free text has no tokens. -/
theorem segments_of_isFree {text : List Char} (h : Token.IsFree text) :
    segments text = text.map .plain := by
  induction text with
  | nil => rfl
  | cons c rest ih =>
    have hrest : segments rest = rest.map .plain := ih h.tail
    have htoken : (if c = '@' then Token.at? rest else none) = none := by
      split
      · rename_i hc
        subst hc
        exact Token.at?_eq_none h
      · rfl
    rw [segments] at hrest ⊢
    simp only [segmentsFrom, htoken, hrest, List.map_cons]

/-! ## Whole texts -/

namespace Engine

variable (engine : Engine)

/-- A free text means itself, whatever the engine and the references are. -/
theorem run_resolve_of_isFree {text : List Char} (h : Token.IsFree text) (references : References)
    (source : Source) :
    (engine.resolve references text).run source = (.str (String.ofList text), source) := by
  rw [resolve, Token.whole?_eq_none h]
  dsimp only
  rw [run_bind, resolveSegments, segments_of_isFree h, run_bind,
    Draw.run_forEach_copy (engine.resolveSegment references) .plain fun _ => rfl, run_pure,
    run_pure, ← List.flatMap_def, List.flatMap_singleton']

/-- **A text without directives is generated as it is**, from no random words and without a change
of the ledger. -/
theorem run_produceText_plain {text : String} (hslash : text.toList.count '/' ≤ 1)
    (hfree : Token.IsFree text.toList) (scope : Scope) (progress : Progress) :
    (engine.produceText text scope).run progress = (.str text, progress) := by
  have hexpand := Pattern.run_expand_of_count_le hslash progress.source
  have hresolve := engine.run_resolve_of_isFree hfree (scope.find? progress.ledger) progress.source
  rw [String.ofList_toList] at hresolve
  rw [run_produceText, hexpand, hresolve]

/-- A text without at signs and slashes is generated as it is. -/
theorem run_produceText_of_not_mem {text : String} (hat : '@' ∉ text.toList)
    (hslash : '/' ∉ text.toList) (scope : Scope) (progress : Progress) :
    (engine.produceText text scope).run progress = (.str text, progress) :=
  engine.run_produceText_plain (Pattern.count_slash_le hslash) (Token.isFree_of_not_mem hat) scope
    progress

end Engine

end Specimen
