import Mathlib.Algebra.Group.Nat.Even
import Specimen.Calendar.Format

set_option autoImplicit false

/-!
# Patterns of letters

A pattern without a percent sign is translated into the notation of directives and then read in it.
What the translation writes is always read, and as the same items whatever comes behind it: a
directive is complete, and everything else is a character that prints itself. So no such pattern is
invalid. A character that is no letter ends the run before it, and outside quotes it divides a
pattern into two that are translated on their own.

## Main definitions

* `Specimen.Calendar.Reads` — a text is read as some items whatever comes behind it.
* `Specimen.Calendar.runItems` — what a run of equal letters prints.

## Main results

* `Specimen.Calendar.reads_translateRun`, `Specimen.Calendar.exists_reads_translateLetters` — what a
  run of letters and a pattern of letters become is read.
* `Specimen.Calendar.translateLetters_append_cons` — a pattern around a character that is no letter.
* `Specimen.Calendar.formatInstant?_letters` — the texts of such patterns.
-/

namespace Specimen.Calendar

/-! ## Directives in a row -/

/-- A text is read as some items whatever comes behind it. -/
def Reads (text : List Char) (items : List Item) : Prop :=
  ∀ rest, readDirectives .outside (text ++ rest) =
    (readDirectives .outside rest).map (items ++ ·)

theorem reads_nil : Reads [] [] := by
  intro rest
  cases h : readDirectives .outside rest <;> simp [h]

theorem Reads.append {first second : List Char} {items others : List Item}
    (hfirst : Reads first items) (hsecond : Reads second others) :
    Reads (first ++ second) (items ++ others) := by
  intro rest
  rw [List.append_assoc, hfirst, hsecond, Option.map_map]
  congr 1
  funext more
  exact (List.append_assoc _ _ _).symm

theorem Reads.readDirectives {text : List Char} {items : List Item} (h : Reads text items) :
    readDirectives .outside text = some items := by
  have hend := h []
  rwa [List.append_nil, Calendar.readDirectives, Option.map_some, List.append_nil] at hend

/-- A character that is no percent sign prints itself. -/
theorem reads_literal {c : Char} (hc : c ≠ '%') : Reads [c] [.literal c] := by
  intro rest
  rw [List.singleton_append, Calendar.readDirectives, if_neg hc]
  rfl

theorem reads_replicate {c : Char} (hc : c ≠ '%') (count : Nat) :
    Reads (List.replicate count c) (List.replicate count (.literal c)) := by
  induction count with
  | zero => exact reads_nil
  | succ count ih => exact (reads_literal hc).append ih

/-- A directive of one letter prints its items. -/
theorem reads_directive {c : Char} {items : List Item} (h : directive? c = some items)
    (hpadding : paddingMark? c = none) (hplaces : fractionPlaces? c = none) (hpoint : c ≠ '.') :
    Reads ['%', c] items := by
  intro rest
  simp only [List.cons_append, List.nil_append, Calendar.readDirectives, if_pos, hpadding, hplaces,
    if_neg hpoint, h]
  cases Calendar.readDirectives .outside rest <;> rfl

/-- A directive without padding prints the bare number. -/
theorem reads_bare {c : Char} {field : NumberField} {padding : Padding}
    (h : numberDirective? c = some (field, padding)) :
    Reads ['%', '-', c] [.number field .bare] := by
  intro rest
  have hmark : paddingMark? '-' = some .bare := rfl
  simp only [List.cons_append, List.nil_append, Calendar.readDirectives, if_pos, hmark, h]
  cases Calendar.readDirectives .outside rest <;> rfl

/-- The directive of milliseconds prints three places of the fraction. -/
theorem reads_fraction : Reads ['%', '3', 'f'] (fractionItems false 3) := by
  intro rest
  rfl

/-! ## Translated patterns -/

/-- What a run of equal letters prints: a field, milliseconds, or the letters themselves. -/
def runItems : Char → Nat → List Item
  | 'y', 2 => [padded .yearOfCentury]
  | 'y', _ => [padded .year]
  | 'M', 1 => [.number .month .bare]
  | 'M', 2 => [padded .month]
  | 'M', 3 => [.word .monthShort]
  | 'M', _ => [.word .monthLong]
  | 'd', 1 => [.number .day .bare]
  | 'd', _ => [padded .day]
  | 'H', 1 => [.number .hour .bare]
  | 'H', _ => [padded .hour]
  | 'h', _ => [padded .hour12]
  | 'm', _ => [padded .minute]
  | 's', _ => [padded .second]
  | 'S', _ => [.fraction 3]
  | 'a', _ => [.word .halfUpper]
  | 'E', _ => [.word .weekdayShort]
  | c, count => List.replicate count (.literal c)

/-- What a run of letters becomes is read as what the run prints. -/
theorem reads_translateRun {c : Char} (hc : c ≠ '%') (count : Nat) :
    Reads (translateRun (some (c, count))) (runItems c count) := by
  fun_cases runItems c count
  case case17 =>
    simp only [translateRun, runDirective?, Option.getD_none, *]
    exact reads_replicate hc count
  all_goals simp only [translateRun, runDirective?, Option.getD_some, *]
  case case3 | case7 | case9 => exact reads_bare rfl
  case case14 => exact reads_fraction
  all_goals exact reads_directive rfl rfl rfl (by decide)

/-- What a run of letters becomes is complete. -/
theorem exists_reads_translateRun {run : Option (Char × Nat)}
    (hrun : run.map Prod.fst ≠ some '%') : ∃ items, Reads (translateRun run) items := by
  match run with
  | none => exact ⟨[], reads_nil⟩
  | some (c, count) => exact ⟨_, reads_translateRun (fun hc => hrun (congrArg some hc)) count⟩

/-- A letter goes on with the open run, or ends it and opens its own. -/
theorem exists_extendRun (run : Option (Char × Nat)) (c : Char) :
    ∃ count, extendRun run c = ([], some (c, count)) ∨
      extendRun run c = (translateRun run, some (c, count)) := by
  match run with
  | none => exact ⟨1, Or.inl rfl⟩
  | some (d, count) =>
    by_cases h : c = d
    · subst h
      exact ⟨count + 1, Or.inl (if_pos rfl)⟩
    · exact ⟨1, Or.inr (if_neg h)⟩

/-- **What a pattern of letters becomes is always read.**

**Proof sketch.** By induction on the pattern. Each step writes what becomes of the run that ends,
and perhaps the character itself; both are complete. The letter of an open run comes from the
pattern, and is no percent sign. -/
theorem exists_reads_translateLetters {pattern : List Char} (hpattern : '%' ∉ pattern)
    (quoted : Bool) {run : Option (Char × Nat)}
    (hrun : run.map Prod.fst ≠ some '%') :
    ∃ items, Reads (translateLetters quoted run pattern) items := by
  induction pattern generalizing quoted run with
  | nil => exact exists_reads_translateRun hrun
  | cons c rest ih =>
    obtain ⟨hc, hrest⟩ := not_or.1 (mt List.mem_cons.2 hpattern)
    have hnone : (none : Option (Char × Nat)).map Prod.fst ≠ some '%' := nofun
    obtain ⟨items, hitems⟩ := exists_reads_translateRun hrun
    rw [translateLetters]
    split
    · obtain ⟨others, hothers⟩ := ih hrest (!quoted) hnone
      exact ⟨_, hitems.append hothers⟩
    · split
      · obtain ⟨others, hothers⟩ := ih hrest quoted hnone
        exact ⟨_, hitems.append ((reads_literal (Ne.symm hc)).append hothers)⟩
      · obtain ⟨count, hopen⟩ := exists_extendRun run c
        have hnext : (some (c, count)).map Prod.fst ≠ some '%' := mt Option.some.inj (Ne.symm hc)
        obtain ⟨others, hothers⟩ := ih hrest quoted hnext
        rcases hopen with hopen | hopen <;> rw [hopen]
        · exact ⟨_, hothers⟩
        · exact ⟨_, hitems.append hothers⟩

theorem ne_of_isAsciiLetter {letter other : Char} (hletter : Text.isAsciiLetter letter = true)
    (hother : Text.isAsciiLetter other = false) : letter ≠ other := by
  rintro rfl
  rw [hletter] at hother
  cases hother

/-- Outside quotes a letter belongs to a run. -/
theorem translateLetters_cons_letter {c : Char} (hletter : Text.isAsciiLetter c = true)
    (run : Option (Char × Nat)) (rest : List Char) :
    translateLetters false run (c :: rest) =
      (extendRun run c).1 ++ translateLetters false (extendRun run c).2 rest := by
  rw [translateLetters, if_neg (ne_of_isAsciiLetter hletter rfl), if_neg (by rw [hletter]; decide)]

/-- Equal letters are one run. -/
theorem translateLetters_replicate {c : Char} (hletter : Text.isAsciiLetter c = true)
    (before count : Nat) :
    translateLetters false (some (c, before)) (List.replicate count c) =
      translateRun (some (c, before + count)) := by
  induction count generalizing before with
  | zero => rfl
  | succ count ih =>
    have hsame : extendRun (some (c, before)) c = ([], some (c, before + 1)) := if_pos rfl
    rw [List.replicate_succ, translateLetters_cons_letter hletter, hsame, List.nil_append, ih,
      Nat.add_right_comm, Nat.add_assoc]

/-! ## Patterns around a character -/

/-- **A character that is no letter divides a pattern** when the quotes before it are closed: what
comes before it and what comes behind it are translated on their own.

**Proof sketch.** By induction on the part before the character, inside or outside quotes: as many
quotes remain as bring the reading outside. -/
theorem translateLetters_append_cons {c : Char} (hletter : Text.isAsciiLetter c = false)
    (hquote : c ≠ '\'') {before : List Char} (behind : List Char) {quoted : Bool}
    (hclosed : (before.count '\'' + quoted.toNat) % 2 = 0) (run : Option (Char × Nat)) :
    translateLetters quoted run (before ++ c :: behind) =
      translateLetters quoted run before ++ c :: translateLetters false none behind := by
  induction before generalizing quoted run with
  | nil =>
    obtain rfl : quoted = false := by
      cases quoted with
      | false => rfl
      | true => cases hclosed
    simp only [List.nil_append, translateLetters, if_neg hquote, hletter, Bool.not_false,
      Bool.or_true, if_true]
  | cons d rest ih =>
    rw [List.cons_append, translateLetters, translateLetters]
    split
    · rename_i hd
      have hrest : (rest.count '\'' + (!quoted).toNat) % 2 = 0 := by
        rw [hd, List.count_cons_self] at hclosed
        cases quoted <;> simp at hclosed ⊢ <;> omega
      rw [ih hrest, List.append_assoc]
    · rename_i hd
      have hrest : (rest.count '\'' + quoted.toNat) % 2 = 0 := by
        rwa [List.count_cons_of_ne hd] at hclosed
      split
      · rw [ih hrest, List.append_assoc, List.cons_append]
      · rcases extendRun run d with ⟨done, next⟩
        dsimp only
        rw [ih hrest, List.append_assoc]

/-! ## Texts -/

theorem formatInstant?_eq_some {t : Instant} {pattern : String} {items : List Item}
    (hpattern : '%' ∉ pattern.toList)
    (h : Reads (translateLetters false none pattern.toList) items) :
    formatInstant? t pattern = some (String.ofList (render t items)) := by
  rw [formatInstant?, readPattern?, translate, if_neg hpattern, h.readDirectives, Option.map_some]

/-- A run of equal letters has the text of what it prints. -/
theorem formatInstant?_replicate (t : Instant) {letter : Char}
    (hletter : Text.isAsciiLetter letter = true) {count : Nat} (hcount : 0 < count) :
    formatInstant? t (String.ofList (List.replicate count letter)) =
      some (String.ofList (render t (runItems letter count))) := by
  obtain ⟨more, rfl⟩ := Nat.exists_eq_succ_of_ne_zero (Nat.ne_of_gt hcount)
  have hpercent : letter ≠ '%' := ne_of_isAsciiLetter hletter rfl
  have hpattern : '%' ∉ (String.ofList (List.replicate (more + 1) letter)).toList := by
    rw [String.toList_ofList]
    exact fun hmem => hpercent (List.eq_of_mem_replicate hmem).symm
  refine formatInstant?_eq_some hpattern ?_
  have hopen : extendRun none letter = ([], some (letter, 1)) := rfl
  rw [String.toList_ofList, List.replicate_succ, translateLetters_cons_letter hletter, hopen,
    List.nil_append, translateLetters_replicate hletter, Nat.add_comm]
  exact reads_translateRun hpercent _

/-- **Patterns of letters never fail and are put together from their parts.** Every pattern without
a percent sign has a text. A run of equal letters has the text of its field. Where a character that
is no letter, quote or percent sign stands between two patterns, the first of which has an even
number of quotes, the text is that of the first pattern, the character, and that of the second.

**Proof sketch.** Every run of letters is translated into directives that are read back, whatever
follows, so a pattern without percent sign is translated into a text that is read to its end. A
character that is no letter and no quote ends the run before it, and outside of quotes the
translation begins anew behind it. -/
theorem formatInstant?_letters (t : Instant) :
    (∀ letter count, Text.isAsciiLetter letter = true → 0 < count →
      formatInstant? t (String.ofList (List.replicate count letter)) =
        some (String.ofList (render t (runItems letter count)))) ∧
      ∀ (before behind : String) (c : Char), '%' ∉ before.toList → '%' ∉ behind.toList →
        Even (before.toList.count '\'') → Text.isAsciiLetter c = false → c ≠ '\'' → c ≠ '%' →
          ∃ first second, formatInstant? t before = some first ∧
            formatInstant? t behind = some second ∧
              formatInstant? t (before ++ String.singleton c ++ behind) =
                some (first ++ String.singleton c ++ second) := by
  refine ⟨fun letter count hletter hcount => formatInstant?_replicate t hletter hcount, ?_⟩
  intro before behind c hbefore hbehind hclosed hletter hquote hpercent
  have hnone : (none : Option (Char × Nat)).map Prod.fst ≠ some '%' := nofun
  obtain ⟨items, hitems⟩ := exists_reads_translateLetters hbefore false hnone
  obtain ⟨others, hothers⟩ := exists_reads_translateLetters hbehind false hnone
  have hlist : (before ++ String.singleton c ++ behind).toList =
      before.toList ++ c :: behind.toList := by simp
  have hwhole : '%' ∉ (before ++ String.singleton c ++ behind).toList := by
    rw [hlist, List.mem_append, List.mem_cons]
    exact not_or.2 ⟨hbefore, not_or.2 ⟨Ne.symm hpercent, hbehind⟩⟩
  have houtside : (before.toList.count '\'' + false.toNat) % 2 = 0 := Nat.even_iff.1 hclosed
  have htranslated : Reads (translateLetters false none
      (before ++ String.singleton c ++ behind).toList) (items ++ .literal c :: others) := by
    rw [hlist, translateLetters_append_cons hletter hquote _ houtside]
    exact hitems.append ((reads_literal hpercent).append hothers)
  refine ⟨_, _, formatInstant?_eq_some hbefore hitems, formatInstant?_eq_some hbehind hothers, ?_⟩
  rw [formatInstant?_eq_some hwhole htranslated]
  simp [render, Item.render, ← String.toList_inj]

/-- A pattern with closed quotes and one with open quotes around a colon, and a month. -/
theorem formatInstant?_letters_quotes :
    '%' ∉ "'at' HH".toList ∧ '%' ∉ "mmSSS 'o".toList ∧ Even ("'at' HH".toList.count '\'') ∧
    Text.isAsciiLetter ':' = false ∧ ':' ≠ '\'' ∧ ':' ≠ '%' ∧
    formatInstant? ⟨⟨2024, 3, 9, 7, 5, 1⟩, 42000000⟩
      ("'at' HH" ++ String.singleton ':' ++ "mmSSS 'o") =
        some ("at 07" ++ String.singleton ':' ++ "05042 o") ∧
    Text.isAsciiLetter 'M' = true ∧ 0 < 4 ∧
    formatInstant? ⟨⟨2024, 3, 9, 7, 5, 1⟩, 42000000⟩ (String.ofList (List.replicate 4 'M')) =
      some (String.ofList "March".toList) := by
  obtain ⟨hrun, hparts⟩ := formatInstant?_letters ⟨⟨2024, 3, 9, 7, 5, 1⟩, 42000000⟩
  have hbefore : '%' ∉ "'at' HH".toList := by decide
  have hbehind : '%' ∉ "mmSSS 'o".toList := by decide
  have hclosed : Even ("'at' HH".toList.count '\'') := by decide
  obtain ⟨first, second, hfirst, hsecond, hwhole⟩ :=
    hparts _ _ ':' hbefore hbehind hclosed (by decide) (by decide) (by decide)
  obtain rfl : first = "at 07" := Option.some.inj (hfirst.symm.trans (by decide))
  obtain rfl : second = "05042 o" := Option.some.inj (hsecond.symm.trans (by decide))
  exact ⟨hbefore, hbehind, hclosed, by decide, by decide, by decide, hwhole, by decide, by decide,
    hrun 'M' 4 (by decide) (by decide)⟩

end Specimen.Calendar
