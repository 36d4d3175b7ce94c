import Mathlib.Data.Nat.Digits.Defs
import Specimen.Proofs.Rule.Validation

set_option autoImplicit false

/-!
# The grammar of rule texts

A rule text begins with a plus sign, or is an extent, or is two extents with a point between them.
An extent is one numeral, or two with a dash between them, and its numerals have no minus sign. The
grammar is written down here as relations between texts and what they write, apart from the reader,
which accepts exactly these texts.

## Main definitions

* `Specimen.Integer.Digits`, `Specimen.Integer.Unsigned`, `Specimen.Integer.Signed` — numerals.
* `Specimen.Rule.Extent.Written`, `Specimen.Rule.Written` — the grammar.
* `Specimen.Rule.Extent.Means`, `Specimen.Rule.Extent.MeansDecimal` — the rule of one extent for a
  kind of value, and that of two.

## Main results

* `Specimen.Integer.read?_eq_some_iff` — the numerals that are read.
* `Specimen.Rule.read?_eq_some_iff` — the rule texts that are read.
* `Specimen.Rule.read?_grammar` — these, and the signs of the numbers in a rule that is read.
-/

namespace Specimen

/-! ## Numerals -/

namespace Integer

/-- Digits write a number in base ten, the most significant first. -/
structure Digits (text : List Char) (n : Nat) : Prop where
  /-- There is a digit. -/
  ne_nil : text ≠ []
  /-- There is nothing but digits. -/
  isDigit : ∀ c ∈ text, isDigit c = true
  /-- The digits have the values of their places. -/
  value : Nat.ofDigits 10 (text.map digitValue).reverse = n

/-- A numeral without minus sign: digits, perhaps behind a plus sign, for a number in range. -/
inductive Unsigned : List Char → Int → Prop
  /-- Digits alone. -/
  | bare {text : List Char} {n : Nat} : Digits text n → (n : Int) ≤ greatest → Unsigned text n
  /-- Digits behind a plus sign. -/
  | plus {text : List Char} {n : Nat} : Digits text n → (n : Int) ≤ greatest →
    Unsigned ('+' :: text) n

/-- A numeral with any sign or none, for a number in range. -/
inductive Signed : List Char → Int → Prop
  /-- There is no minus sign. -/
  | unsigned {text : List Char} {n : Int} : Unsigned text n → Signed text n
  /-- Digits behind a minus sign. -/
  | minus {text : List Char} {n : Nat} : Digits text n → least ≤ -(n : Int) →
    Signed ('-' :: text) (-n)

/-- Reading digit by digit gives each digit the value of its place. -/
theorem ofDigits_eq (text : List Char) :
    ofDigits text = Nat.ofDigits 10 (text.map digitValue).reverse := by
  rw [Nat.ofDigits_eq_foldr, List.foldr_reverse, List.foldl_map]
  exact congrArg (fun f => text.foldl f 0) (funext fun n => funext fun c => Nat.add_comm _ _)

theorem readNat?_eq_some_iff {text : List Char} {n : Nat} :
    readNat? text = some n ↔ Digits text n := by
  simp only [readNat?, Option.ite_none_right_eq_some, Option.some.injEq, List.all_eq_true,
    ofDigits_eq]
  constructor
  · rintro ⟨⟨hne, hall⟩, hvalue⟩
    exact ⟨hne, hall, hvalue⟩
  · rintro ⟨hne, hall, hvalue⟩
    exact ⟨⟨hne, hall⟩, hvalue⟩

/-- A natural number that is read is kept when it is in range, with the sign in front of it. -/
theorem bind_check?_eq_some_iff {text : List Char} {sign : Nat → Int} {n : Int} :
    ((readNat? text).bind fun m => check? (sign m)) = some n ↔
      ∃ m, Digits text m ∧ InRange (sign m) ∧ sign m = n := by
  simp only [Option.bind_eq_some_iff, readNat?_eq_some_iff, check?, Option.ite_none_right_eq_some,
    Option.some.injEq]

/-- A number without sign is in range when it is not too great. -/
theorem inRange_natCast {n : Nat} : InRange n ↔ (n : Int) ≤ greatest := by
  unfold InRange least
  omega

theorem inRange_neg_natCast {n : Nat} : InRange (-(n : Int)) ↔ least ≤ -(n : Int) := by
  unfold InRange greatest
  omega

/-- Digits have no sign in front of them. -/
theorem Digits.ne_cons {text rest : List Char} {n : Nat} (h : Digits text n) {c : Char}
    (hc : Integer.isDigit c = false) : text ≠ c :: rest := by
  rintro rfl
  have hdigit := h.isDigit c (List.mem_cons_self ..)
  rw [hc] at hdigit
  cases hdigit

/-- **The numerals that are read** are those with any sign or none. -/
theorem read?_eq_some_iff {text : List Char} {n : Int} : read? text = some n ↔ Signed text n := by
  constructor
  · intro h
    unfold read? at h
    split at h
    · obtain ⟨m, hdigits, hrange, rfl⟩ := bind_check?_eq_some_iff.1 h
      exact .minus hdigits (inRange_neg_natCast.1 hrange)
    · obtain ⟨m, hdigits, hrange, rfl⟩ := bind_check?_eq_some_iff.1 h
      exact .unsigned (.plus hdigits (inRange_natCast.1 hrange))
    · obtain ⟨m, hdigits, hrange, rfl⟩ := bind_check?_eq_some_iff.1 h
      exact .unsigned (.bare hdigits (inRange_natCast.1 hrange))
  · rintro ((⟨hdigits, hle⟩ | ⟨hdigits, hle⟩) | ⟨hdigits, hle⟩)
    · rw [read?.eq_3 _ (fun _ => hdigits.ne_cons (by decide)) fun _ => hdigits.ne_cons (by decide)]
      exact bind_check?_eq_some_iff.2 ⟨_, hdigits, inRange_natCast.2 hle, rfl⟩
    · exact bind_check?_eq_some_iff.2 ⟨_, hdigits, inRange_natCast.2 hle, rfl⟩
    · exact bind_check?_eq_some_iff.2 ⟨_, hdigits, inRange_neg_natCast.2 hle, rfl⟩

namespace Unsigned

variable {text : List Char} {n : Int}

theorem nonneg (h : Unsigned text n) : 0 ≤ n := by
  cases h with
  | bare hdigits hle | plus hdigits hle => exact Int.natCast_nonneg _

/-- There is nothing in a numeral but digits and its sign. -/
theorem notMem (h : Unsigned text n) {c : Char} (hdigit : isDigit c = false) (hsign : c ≠ '+') :
    c ∉ text := by
  have hdigits : ∀ {digits : List Char} {m : Nat}, Digits digits m → c ∉ digits := by
    intro digits m hdigits hmem
    rw [hdigits.isDigit c hmem] at hdigit
    cases hdigit
  cases h with
  | bare h hle => exact hdigits h
  | plus h hle => exact List.not_mem_cons_of_ne_of_not_mem hsign (hdigits h)

end Unsigned

/-- A numeral without minus sign is read as any numeral is. -/
theorem read?_eq_some_iff_unsigned {text : List Char} {n : Int} (hminus : '-' ∉ text) :
    read? text = some n ↔ Unsigned text n := by
  rw [read?_eq_some_iff]
  constructor
  · intro h
    cases h with
    | unsigned h => exact h
    | minus _ _ => exact absurd (List.mem_cons_self ..) hminus
  · exact .unsigned

end Integer

/-! ## The grammar -/

namespace Rule

/-- An extent is written as one numeral, or as two with a dash between them. -/
inductive Extent.Written : List Char → Extent → Prop
  /-- One numeral. -/
  | count {text : List Char} {count : Int} : Integer.Unsigned text count →
    Written text (.count count)
  /-- Two numerals. -/
  | range {low high : List Char} {min max : Int} : Integer.Unsigned low min →
    Integer.Unsigned high max → Written (low ++ '-' :: high) (.range min max)

/-- The rule of an extent for a kind of value. -/
inductive Extent.Means : Extent → Kind → Rule → Prop
  /-- A text is repeated. -/
  | text (count : Int) : Means (.count count) .string (.stringCount count)
  /-- A number is given. -/
  | number (count : Int) : Means (.count count) .number (.numberRange count count)
  /-- A coin is tossed once. -/
  | coin : Means (.count 1) .boolean .booleanRandom
  /-- So many members are kept. -/
  | members (count : Int) : Means (.count count) .object (.objectCount count)
  /-- One item takes the place of the array. -/
  | item : Means (.count 1) .array .arrayPickOne
  /-- Picks are made. -/
  | items {count : Int} : count ≠ 1 → Means (.count count) .array (.arrayRepeatCount count)
  /-- A text is repeated, at random within bounds. -/
  | textRange (min max : Int) : Means (.range min max) .string (.stringRange min max)
  /-- A number is drawn. -/
  | numberRange (min max : Int) : Means (.range min max) .number (.numberRange min max)
  /-- A coin with two weights is tossed. -/
  | weights (min max : Int) : Means (.range min max) .boolean (.booleanWeighted min max)
  /-- Members are kept, their number at random within bounds. -/
  | memberRange (min max : Int) : Means (.range min max) .object (.objectRange min max)
  /-- Picks are made, their number at random within bounds. -/
  | itemRange (min max : Int) : Means (.range min max) .array (.arrayRepeatRange min max)

/-- The rule of an extent of the integer part and an extent of the number of decimal places. -/
inductive Extent.MeansDecimal : Extent → Extent → Rule → Prop
  /-- Both are at random within bounds. -/
  | rangeRange (min max minPlaces maxPlaces : Int) : MeansDecimal (.range min max)
    (.range minPlaces maxPlaces) (.floatRange min max minPlaces maxPlaces)
  /-- The integer part is given. -/
  | countRange (count minPlaces maxPlaces : Int) : MeansDecimal (.count count)
    (.range minPlaces maxPlaces) (.floatCount count minPlaces maxPlaces)
  /-- The number of places is given. -/
  | rangeCount (min max places : Int) : MeansDecimal (.range min max) (.count places)
    (.floatRangeFixed min max places)
  /-- Both are given. -/
  | countCount (count places : Int) : MeansDecimal (.count count) (.count places)
    (.floatFixed count places)

/-- A step is written as a numeral with any sign or none; what is no numeral makes a step of one. -/
inductive StepWritten : List Char → Int → Prop
  /-- A numeral. -/
  | numeral {text : List Char} {step : Int} : Integer.Signed text step → StepWritten text step
  /-- No numeral. -/
  | one {text : List Char} : (∀ n, ¬Integer.Signed text n) → StepWritten text 1

/-- A text writes a rule for a kind of value. -/
inductive Written : List Char → Kind → Rule → Prop
  /-- The turns of an array move on by a step. -/
  | turns {text : List Char} {step : Int} : StepWritten text step →
    Written ('+' :: text) .array (.arrayPickSequential step)
  /-- Any other value counts by a step. -/
  | counts {text : List Char} {step : Int} {kind : Kind} : kind ≠ .array → StepWritten text step →
    Written ('+' :: text) kind (.numberIncrement step)
  /-- One extent. -/
  | extent {text : List Char} {extent : Extent} {kind : Kind} {rule : Rule} :
    text.head? ≠ some '+' → extent.Written text → extent.Means kind rule → Written text kind rule
  /-- Two extents with a point between them, which mean the same for every kind. -/
  | decimal {whole places : List Char} {first second : Extent} {kind : Kind} {rule : Rule} :
    (whole ++ '.' :: places).head? ≠ some '+' → first.Written whole → second.Written places →
    first.MeansDecimal second rule → Written (whole ++ '.' :: places) kind rule

/-! ## Reading the grammar -/

/-- Two numerals with a dash between them are read, and nothing else. -/
theorem readRange?_eq_some_iff {text : List Char} {min max : Int} :
    readRange? text = some (min, max) ↔ ∃ low high, text = low ++ '-' :: high ∧
      Integer.Unsigned low min ∧ Integer.Unsigned high max := by
  constructor
  · intro h
    unfold readRange? at h
    split at h
    · rename_i low high hsplit
      obtain ⟨htext, hlow, hhigh⟩ := Text.splitOn_eq_pair_iff.1 hsplit
      simp only [Option.bind_eq_bind, Option.bind_eq_some_iff,
        Integer.read?_eq_some_iff_unsigned hlow, Integer.read?_eq_some_iff_unsigned hhigh,
        Option.some.injEq, Prod.mk.injEq] at h
      obtain ⟨_, hmin, _, hmax, rfl, rfl⟩ := h
      exact ⟨low, high, htext, hmin, hmax⟩
    · cases h
  · rintro ⟨low, high, rfl, hmin, hmax⟩
    have hlow : '-' ∉ low := hmin.notMem (by decide) (by decide)
    have hhigh : '-' ∉ high := hmax.notMem (by decide) (by decide)
    rw [readRange?, Text.splitOn_eq_pair_iff.2 ⟨rfl, hlow, hhigh⟩]
    simp only [(Integer.read?_eq_some_iff_unsigned hlow).2 hmin,
      (Integer.read?_eq_some_iff_unsigned hhigh).2 hmax, Option.bind_eq_bind, Option.bind_some]

namespace Extent

variable {text : List Char} {extent : Extent}

/-- **The extents that are read** are those of the grammar. -/
theorem read?_eq_some_iff : read? text = some extent ↔ extent.Written text := by
  unfold read?
  split
  · rename_i hdash
    simp only [Option.map_eq_some_iff, Prod.exists, readRange?_eq_some_iff]
    constructor
    · rintro ⟨min, max, ⟨low, high, rfl, hmin, hmax⟩, rfl⟩
      exact .range hmin hmax
    · rintro (hcount | ⟨hmin, hmax⟩)
      · exact absurd hdash (hcount.notMem (by decide) (by decide))
      · exact ⟨_, _, ⟨_, _, rfl, hmin, hmax⟩, rfl⟩
  · rename_i hdash
    simp only [Option.map_eq_some_iff, Integer.read?_eq_some_iff_unsigned hdash]
    constructor
    · rintro ⟨count, hcount, rfl⟩
      exact .count hcount
    · rintro (hcount | ⟨hmin, hmax⟩)
      · exact ⟨_, hcount, rfl⟩
      · exact absurd (List.mem_append_right _ (List.mem_cons_self ..)) hdash

/-- There is no point in an extent. -/
theorem Written.point_notMem (h : extent.Written text) : '.' ∉ text := by
  cases h with
  | count hcount => exact hcount.notMem (by decide) (by decide)
  | range hmin hmax =>
    intro hmem
    rcases List.mem_append.1 hmem with hlow | hhigh
    · exact hmin.notMem (by decide) (by decide) hlow
    · exact hmax.notMem (by decide) (by decide) (List.mem_of_ne_of_mem (by decide) hhigh)

end Extent

theorem ofRange_eq_iff {min max : Int} {kind : Kind} {rule : Rule} :
    ofRange min max kind = rule ↔ (Extent.range min max).Means kind rule := by
  constructor
  · rintro rfl
    cases kind <;> constructor
  · rintro (_ | _)
    all_goals rfl

theorem ofCount?_eq_some_iff {count : Int} {kind : Kind} {rule : Rule} :
    ofCount? count kind = some rule ↔ (Extent.count count).Means kind rule := by
  constructor
  · intro h
    cases kind with
    | string | number | object =>
      obtain rfl := Option.some.inj h
      constructor
    | boolean =>
      simp only [ofCount?, Option.ite_none_right_eq_some, Option.some.injEq] at h
      obtain ⟨rfl, rfl⟩ := h
      exact .coin
    | array =>
      simp only [ofCount?, Option.some.injEq] at h
      split at h
      · rename_i hone
        subst hone h
        exact .item
      · rename_i hone
        subst h
        exact .items hone
  · rintro (_ | _ | _ | _ | _ | hone)
    case items => simp only [ofCount?, if_neg hone]
    all_goals rfl

/-- Two extents with a point between them are read, and nothing else. -/
theorem readDecimal?_eq_some_iff {text : List Char} {rule : Rule} :
    readDecimal? text = some rule ↔ ∃ whole places, text = whole ++ '.' :: places ∧
      ∃ first second : Extent, first.Written whole ∧ second.Written places ∧
        first.MeansDecimal second rule := by
  constructor
  · intro h
    simp only [readDecimal?, Option.bind_eq_bind, Option.bind_eq_some_iff] at h
    obtain ⟨⟨whole, places⟩, hcut, h⟩ := h
    obtain ⟨rfl, -⟩ := Text.cut?_eq_some_iff.1 hcut
    simp only at h
    split at h
    · cases h
    · simp only [Option.bind_eq_some_iff, Extent.read?_eq_some_iff] at h
      obtain ⟨first, hfirst, second, hsecond, h⟩ := h
      refine ⟨whole, places, rfl, first, second, hfirst, hsecond, ?_⟩
      cases hfirst <;> cases hsecond <;>
        (obtain rfl := Option.some.inj h
         constructor)
  · rintro ⟨whole, places, rfl, first, second, hfirst, hsecond, hmeans⟩
    have hcut : Text.cut? '.' (whole ++ '.' :: places) = some (whole, places) :=
      Text.cut?_eq_some_iff.2 ⟨rfl, hfirst.point_notMem⟩
    simp only [readDecimal?, hcut, Option.bind_eq_bind, Option.bind_some,
      if_neg hsecond.point_notMem, Extent.read?_eq_some_iff.2 hfirst,
      Extent.read?_eq_some_iff.2 hsecond]
    cases hmeans <;> rfl

/-- After a plus sign there is always a step. -/
theorem stepWritten_iff {text : List Char} {step : Int} :
    (Integer.read? text).getD 1 = step ↔ StepWritten text step := by
  cases hread : Integer.read? text with
  | some n =>
    have hn := Integer.read?_eq_some_iff.1 hread
    constructor
    · rintro rfl
      exact .numeral hn
    · rintro (hstep | hnone)
      · exact Option.some.inj (hread.symm.trans (Integer.read?_eq_some_iff.2 hstep))
      · exact absurd hn (hnone n)
  | none =>
    have hnone : ∀ n, ¬Integer.Signed text n := by
      intro n hn
      rw [Integer.read?_eq_some_iff.2 hn] at hread
      cases hread
    constructor
    · rintro rfl
      exact .one hnone
    · rintro (hstep | _)
      · exact absurd hstep (hnone step)
      · rfl

/-- Without point a text is read as an extent. -/
theorem read?_of_point_notMem {text : List Char} (hplus : text.head? ≠ some '+')
    (hpoint : '.' ∉ text) {kind : Kind} {rule : Rule} :
    read? text kind = some rule ↔
      ∃ extent : Extent, extent.Written text ∧ extent.Means kind rule := by
  have hread : read? text kind = (Extent.read? text).bind fun
      | .range min max => some (ofRange min max kind)
      | .count count => ofCount? count kind := by
    rw [read?.eq_2 _ _ fun rest heq => hplus (by rw [heq]; rfl), if_neg hpoint, Extent.read?]
    split
    · cases readRange? text <;> rfl
    · cases Integer.read? text <;> rfl
  simp only [hread, Option.bind_eq_some_iff, Extent.read?_eq_some_iff]
  refine exists_congr fun extent => and_congr_right fun _ => ?_
  cases extent with
  | range min max => exact Option.some_inj.trans ofRange_eq_iff
  | count count => exact ofCount?_eq_some_iff

/-- With a point a text is read as two extents. -/
theorem read?_of_point_mem {text : List Char} (hplus : text.head? ≠ some '+') (hpoint : '.' ∈ text)
    {kind : Kind} {rule : Rule} :
    read? text kind = some rule ↔ ∃ whole places, text = whole ++ '.' :: places ∧
      ∃ first second : Extent, first.Written whole ∧ second.Written places ∧
        first.MeansDecimal second rule := by
  rw [read?.eq_2 _ _ fun rest heq => hplus (by rw [heq]; rfl), if_pos hpoint,
    readDecimal?_eq_some_iff]

/-- After a plus sign a text is read as a step. -/
theorem read?_plus {text : List Char} {kind : Kind} {rule : Rule} :
    read? ('+' :: text) kind = some rule ↔
      ∃ step, StepWritten text step ∧ ofStep step kind = rule := by
  rw [read?, Option.some_inj]
  constructor
  · rintro rfl
    exact ⟨_, stepWritten_iff.1 rfl, rfl⟩
  · rintro ⟨step, hstep, rfl⟩
    rw [stepWritten_iff.2 hstep]

/-- **The rule texts that are read** are those of the grammar.

**Proof sketch.** By what the reader looks at: a plus sign in front, then a point. In each case the
rules of the grammar for the other cases do not apply. -/
theorem read?_eq_some_iff {text : List Char} {kind : Kind} {rule : Rule} :
    read? text kind = some rule ↔ Written text kind rule := by
  by_cases hplus : text.head? = some '+'
  · obtain ⟨rest, rfl⟩ := List.head?_eq_some_iff.1 hplus
    rw [read?_plus]
    constructor
    · rintro ⟨step, hstep, rfl⟩
      cases kind with
      | array => exact .turns hstep
      | string | number | boolean | object => exact .counts (by decide) hstep
    · generalize htext : '+' :: rest = text at hplus
      rintro (hstep | ⟨hkind, hstep⟩ | ⟨hhead, -, -⟩ | ⟨hhead, -, -, -⟩)
      · obtain rfl := (List.cons.inj htext).2
        exact ⟨_, hstep, rfl⟩
      · obtain rfl := (List.cons.inj htext).2
        exact ⟨_, hstep, by cases kind <;> first | rfl | exact absurd rfl hkind⟩
      · exact absurd hplus hhead
      · exact absurd hplus hhead
  · by_cases hpoint : '.' ∈ text
    · rw [read?_of_point_mem hplus hpoint]
      constructor
      · rintro ⟨whole, places, rfl, first, second, hfirst, hsecond, hmeans⟩
        exact .decimal hplus hfirst hsecond hmeans
      · rintro (_ | _ | ⟨-, hwritten, -⟩ | ⟨-, hfirst, hsecond, hmeans⟩)
        · exact absurd rfl hplus
        · exact absurd rfl hplus
        · exact absurd hpoint hwritten.point_notMem
        · exact ⟨_, _, rfl, _, _, hfirst, hsecond, hmeans⟩
    · rw [read?_of_point_notMem hplus hpoint]
      constructor
      · rintro ⟨extent, hwritten, hmeans⟩
        exact .extent hplus hwritten hmeans
      · rintro (_ | _ | ⟨-, hwritten, hmeans⟩ | _)
        · exact absurd rfl hplus
        · exact absurd rfl hplus
        · exact ⟨_, hwritten, hmeans⟩
        · exact absurd (List.mem_append_right _ (List.mem_cons_self ..)) hpoint

/-! ## The numbers of rules -/

/-- The numbers of an extent. -/
def Extent.fields : Extent → List Int
  | .range a b => [a, b]
  | .count n => [n]

theorem Extent.Written.nonneg {extent : Extent} {text : List Char} (h : extent.Written text) :
    ∀ field ∈ extent.fields, 0 ≤ field := by
  cases h with
  | count hcount => exact List.forall_mem_singleton.2 hcount.nonneg
  | range hmin hmax =>
    exact List.forall_mem_cons.2 ⟨hmin.nonneg, List.forall_mem_singleton.2 hmax.nonneg⟩

/-- The rule of an extent has no other numbers than the extent. -/
theorem Extent.Means.fields_subset {extent : Extent} {kind : Kind} {rule : Rule}
    (h : extent.Means kind rule) : rule.fields ⊆ extent.fields := by
  cases h <;> simp [Rule.fields, Extent.fields]

theorem Extent.MeansDecimal.fields_eq {first second : Extent} {rule : Rule}
    (h : first.MeansDecimal second rule) : rule.fields = first.fields ++ second.fields := by
  cases h <;> rfl

/-- A rule that is written has no number below zero, unless it is a step. -/
theorem Written.nonneg {text : List Char} {kind : Kind} {rule : Rule} (h : Written text kind rule)
    (hstep : rule.isStep = false) : ∀ field ∈ rule.fields, 0 ≤ field := by
  cases h with
  | turns _ | counts _ _ => cases hstep
  | extent _ hwritten hmeans =>
    exact fun field hfield => hwritten.nonneg field (hmeans.fields_subset hfield)
  | decimal _ hfirst hsecond hmeans =>
    rw [hmeans.fields_eq]
    exact List.forall_mem_append.2 ⟨hfirst.nonneg, hsecond.nonneg⟩

/-- The fault of a bound below zero is found where a rule that is no step has such a number. -/
theorem of_fault?_negativeBound {rule : Rule} {bound : Int}
    (h : rule.fault? = some (.negativeBound bound)) :
    rule.isStep = false ∧ bound ∈ rule.fields ∧ bound < 0 :=
  isOf_of_fault? h

/-! ## All rule texts -/

/-- One numeral makes a rule for every kind, except that a coin is tossed once only. -/
theorem Extent.exists_means_count {count : Int} {kind : Kind} :
    (∃ rule, (Extent.count count).Means kind rule) ↔ (kind = .boolean → count = 1) := by
  simp only [← ofCount?_eq_some_iff]
  cases kind <;> simp [ofCount?]

/-- Two extents always make a rule. -/
theorem Extent.exists_meansDecimal (first second : Extent) :
    ∃ rule, first.MeansDecimal second rule := by
  cases first <;> cases second <;> exact ⟨_, by constructor⟩

/-- **What is read as a rule.** The texts are those of the grammar: behind a plus sign any, and
otherwise one numeral, which for a truth value is a one, or two numerals with a dash between them,
or two such extents with a point between them. A number below zero is only ever a step, so no rule
that is read has the fault of a bound below zero.

**Proof sketch.** The reader accepts the texts of the grammar. The numerals of an extent have no
minus sign, and a rule has no numbers but those of its extents. -/
theorem read?_grammar (text : List Char) (kind : Kind) :
    (∀ rule, read? text kind = some rule ↔ Written text kind rule) ∧
    (text.head? ≠ some '+' → ((read? text kind).isSome ↔
      (∃ count, Integer.Unsigned text count ∧ (kind = .boolean → count = 1)) ∨
      (∃ low high min max, text = low ++ '-' :: high ∧ Integer.Unsigned low min ∧
        Integer.Unsigned high max) ∨
      ∃ whole places, text = whole ++ '.' :: places ∧
        (∃ extent : Extent, extent.Written whole) ∧ ∃ extent : Extent, extent.Written places)) ∧
    ∀ rule, read? text kind = some rule →
      (rule.isStep = false → ∀ field ∈ rule.fields, 0 ≤ field) ∧
      ∀ bound, rule.fault? ≠ some (.negativeBound bound) := by
  refine ⟨fun rule => read?_eq_some_iff, fun hplus => ?_, fun rule hread => ?_⟩
  · simp only [Option.isSome_iff_exists, read?_eq_some_iff]
    constructor
    · rintro ⟨rule, _ | _ | ⟨-, ⟨hcount⟩ | ⟨hmin, hmax⟩, hmeans⟩ | ⟨-, hfirst, hsecond, -⟩⟩
      · exact absurd rfl hplus
      · exact absurd rfl hplus
      · exact Or.inl ⟨_, hcount, Extent.exists_means_count.1 ⟨rule, hmeans⟩⟩
      · exact Or.inr (Or.inl ⟨_, _, _, _, rfl, hmin, hmax⟩)
      · exact Or.inr (Or.inr ⟨_, _, rfl, ⟨_, hfirst⟩, _, hsecond⟩)
    · rintro (⟨count, hcount, hkind⟩ | ⟨low, high, min, max, rfl, hmin, hmax⟩ |
        ⟨whole, places, rfl, ⟨first, hfirst⟩, second, hsecond⟩)
      · obtain ⟨rule, hmeans⟩ := Extent.exists_means_count.2 hkind
        exact ⟨rule, .extent hplus (.count hcount) hmeans⟩
      · exact ⟨_, .extent hplus (.range hmin hmax) (ofRange_eq_iff.1 rfl)⟩
      · obtain ⟨rule, hmeans⟩ := first.exists_meansDecimal second
        exact ⟨rule, .decimal hplus hfirst hsecond hmeans⟩
  · have hwritten := read?_eq_some_iff.1 hread
    refine ⟨hwritten.nonneg, fun bound hfault => ?_⟩
    obtain ⟨hstep, hmem, hneg⟩ := of_fault?_negativeBound hfault
    exact absurd (hwritten.nonneg hstep bound hmem) (Int.not_le.2 hneg)

/-- A plus sign inside and a zero in front belong to numerals. -/
theorem read?_grammar_signs :
    ['1', '-', '+', '1', '0', '.', '0', '2'].head? ≠ some '+' ∧
      read? ['1', '-', '+', '1', '0', '.', '0', '2'] .string = some (.floatRangeFixed 1 10 2) ∧
      Written ['1', '-', '+', '1', '0', '.', '0', '2'] .string (.floatRangeFixed 1 10 2) ∧
      (read? ['1', '-', '+', '1', '0', '.', '0', '2'] .string).isSome ∧
      (∀ field ∈ fields (.floatRangeFixed 1 10 2), 0 ≤ field) ∧
      ∀ bound, fault? (.floatRangeFixed 1 10 2) ≠ some (.negativeBound bound) := by
  obtain ⟨hwritten, hsome, hsigns⟩ :=
    read?_grammar ['1', '-', '+', '1', '0', '.', '0', '2'] .string
  have hread : read? ['1', '-', '+', '1', '0', '.', '0', '2'] .string =
      some (.floatRangeFixed 1 10 2) := by decide
  have hwhole : (Extent.range 1 10).Written ['1', '-', '+', '1', '0'] :=
    Extent.read?_eq_some_iff.1 rfl
  have hplaces : (Extent.count 2).Written ['0', '2'] := Extent.read?_eq_some_iff.1 rfl
  refine ⟨by decide, hread, (hwritten _).1 hread, (hsome (by decide)).2 ?_,
    (hsigns _ hread).1 rfl, (hsigns _ hread).2⟩
  exact Or.inr (Or.inr ⟨_, _, rfl, ⟨_, hwhole⟩, _, hplaces⟩)

end Rule

end Specimen
