import Specimen.Rule.Key

set_option autoImplicit false

/-!
# Keys and the rules they carry

A key comes apart in one way only, and its name does not come apart again. What a rule text can be
read as depends on its first character, on its points and on the kind of the value; which shapes of
rules a kind admits, and which texts they come from, is read off one case distinction.

A rule that is read can still have a fault. What generation goes by is the rule that is left: the
rule of a key that can be used on a value.

## Main definitions

* `Specimen.Rule.Suits` — the kinds of values that a rule is read for.
* `Specimen.Rule.isFraction`, `Specimen.Rule.isStep` — rules with a point, and rules of a step.
* `Specimen.Key.usable?` — the rule of a key that can be used on a value.

## Main results

* `Specimen.Key.split?_eq_some_iff` — how a key comes apart.
* `Specimen.Key.split?_name` — a name has no rule.
* `Specimen.Key.split?_stable` — keys and their names.
* `Specimen.Rule.read?_cases` — what a text is read as.
* `Specimen.Key.usable?_eq_some_iff` — when a rule can be used.
-/

namespace Specimen

/-! ## Names and rule texts -/

namespace Key

/-- The bar that counts is the first one after the first character. -/
theorem splitChars?_eq_some_iff {text name rule : List Char} :
    splitChars? text = some (name, rule) ↔
      text = name ++ '|' :: rule ∧ name ≠ [] ∧ rule ≠ [] ∧ '|' ∉ name.tail := by
  constructor
  · intro h
    cases text with
    | nil => simp [splitChars?] at h
    | cons first rest =>
      simp only [splitChars?] at h
      split at h
      · cases h
      · rename_i before after hne hcut
        obtain ⟨hrest, hbar⟩ := Text.cut?_eq_some_iff.1 hcut
        simp only [Option.some.injEq, Prod.mk.injEq] at h
        obtain ⟨rfl, rfl⟩ := h
        refine ⟨by rw [hrest]; rfl, by simp, ?_, hbar⟩
        rintro rfl
        exact hne rfl
      · cases h
  · rintro ⟨rfl, hname, hrule, hbar⟩
    cases name with
    | nil => exact absurd rfl hname
    | cons first before =>
      have hcut : Text.cut? '|' (before ++ '|' :: rule) = some (before, rule) :=
        Text.cut?_eq_some_iff.2 ⟨rfl, hbar⟩
      cases rule with
      | nil => exact absurd rfl hrule
      | cons c rule => simp [splitChars?, hcut]

/-- **How a key comes apart**: a name and a rule text, neither empty, with a bar between them that
is the first one after the first character. -/
theorem split?_eq_some_iff {key name rule : String} :
    split? key = some (name, rule) ↔
      key = name ++ "|" ++ rule ∧ name ≠ "" ∧ rule ≠ "" ∧ '|' ∉ name.toList.tail := by
  have hkey : key = name ++ "|" ++ rule ↔ key.toList = name.toList ++ '|' :: rule.toList := by
    rw [← String.toList_inj]
    simp
  have hempty : ∀ text : String, text ≠ "" ↔ text.toList ≠ [] := by simp
  rw [hkey, hempty name, hempty rule, ← splitChars?_eq_some_iff]
  simp only [split?, Option.map_eq_some_iff, Prod.exists, Prod.mk.injEq]
  constructor
  · rintro ⟨n, r, h, rfl, rfl⟩
    simpa using h
  · intro h
    exact ⟨_, _, h, by simp, by simp⟩

/-- A bar with something on both sides makes a key come apart, there or at a bar before it.

**Proof sketch.** There is a bar behind the first character. If the first such bar were the last
character, then the given one could not come before it. -/
theorem isSome_splitChars? {before after : List Char} (hbefore : before ≠ [])
    (hafter : after ≠ []) : (splitChars? (before ++ '|' :: after)).isSome = true := by
  obtain ⟨first, rest, rfl⟩ := List.exists_cons_of_ne_nil hbefore
  simp only [List.cons_append, splitChars?]
  split
  · rename_i name hcut
    obtain ⟨hlast, hbar⟩ := Text.cut?_eq_some_iff.1 hcut
    have hname : (rest ++ '|' :: after).dropLast = name := by
      rw [hlast, List.dropLast_concat]
    rw [List.dropLast_append_of_ne_nil (List.cons_ne_nil _ _),
      List.dropLast_cons_of_ne_nil hafter] at hname
    exact absurd (hname ▸ by simp) hbar
  · rfl
  · rename_i hcut
    exact absurd (by simp) (Text.cut?_eq_none_iff.1 hcut)

/-- **When a key does not come apart**: no bar has something on both sides. -/
theorem split?_eq_none_iff {key : String} :
    split? key = none ↔
      ¬∃ before after, key = before ++ "|" ++ after ∧ before ≠ "" ∧ after ≠ "" := by
  constructor
  · rintro hnone ⟨before, after, rfl, hbefore, hafter⟩
    have hsome := @isSome_splitChars? before.toList after.toList (by simpa using hbefore)
      (by simpa using hafter)
    have hjoin : (before ++ "|" ++ after).toList = before.toList ++ '|' :: after.toList := by simp
    rw [split?, Option.map_eq_none_iff, hjoin] at hnone
    rw [hnone] at hsome
    cases hsome
  · intro hbar
    cases hsplit : split? key with
    | none => rfl
    | some parts =>
      obtain ⟨hkey, hname, hrule, -⟩ := split?_eq_some_iff.1 hsplit
      exact absurd ⟨_, _, hkey, hname, hrule⟩ hbar

/-- A key without a bar has no rule text. -/
theorem split?_eq_none {key : String} (h : '|' ∉ key.toList) : split? key = none := by
  refine split?_eq_none_iff.2 ?_
  rintro ⟨before, after, rfl, -, -⟩
  exact h (by simp)

theorem name_eq_of_split? {key name rule : String} (h : split? key = some (name, rule)) :
    Key.name key = name := by
  simp only [Key.name, h]

theorem name_eq_self {key : String} (h : split? key = none) : Key.name key = key := by
  simp only [Key.name, h]

/-- A name does not come apart: its only bar can be its first character. -/
theorem split?_name (key : String) : split? (Key.name key) = none := by
  cases h : split? key with
  | none => rwa [name_eq_self h]
  | some parts =>
    obtain ⟨name, rule⟩ := parts
    obtain ⟨-, -, -, hbar⟩ := split?_eq_some_iff.1 h
    rw [name_eq_of_split? h]
    cases hinner : split? name with
    | none => rfl
    | some innerParts =>
      obtain ⟨inner, innerRule⟩ := innerParts
      obtain ⟨rfl, hne, -, -⟩ := split?_eq_some_iff.1 hinner
      obtain ⟨first, rest, hlist⟩ := List.exists_cons_of_ne_nil
        (show inner.toList ≠ [] by simpa using hne)
      exact absurd (by simp [hlist]) hbar

/-- **Keys come apart in one way, and names stay whole.** A name and a rule text, neither empty, are
the parts of the key that they make with a bar between them, exactly when there is no bar in the
name behind its first character. A key has no parts exactly when no bar has something on both sides.
The name of a name is the name itself, which every kind of value reads as a name without rule; and
whatever the kind is, a key is read with its name.

**Proof sketch.** The first bar with something on both sides is the only one that can be the first
bar behind the first character. So a name that was cut off has no such bar, and is its own name. -/
theorem split?_stable (key : String) :
    (∀ name rule, split? key = some (name, rule) ↔
      key = name ++ "|" ++ rule ∧ name ≠ "" ∧ rule ≠ "" ∧ '|' ∉ name.toList.tail) ∧
    (split? key = none ↔
      ¬∃ before after, key = before ++ "|" ++ after ∧ before ≠ "" ∧ after ≠ "") ∧
    Key.name (Key.name key) = Key.name key ∧
    ∀ kind, (read key kind).name = Key.name key ∧
      read (Key.name key) kind = ⟨Key.name key, none⟩ := by
  refine ⟨fun name rule => split?_eq_some_iff, split?_eq_none_iff,
    name_eq_self (split?_name key), fun kind => ⟨name_read key kind, ?_⟩⟩
  rw [read, split?_name key]

/-- A bar in front belongs to the name, and bars behind the one that counts belong to the rule. -/
example : split? "|é||漢|" = some ("|é", "|漢|") ∧ split? "||" = none := by decide

end Key

/-! ## Shapes of rules -/

namespace Rule

/-- The kinds of values that a rule is read for. -/
def Suits : Rule → Kind → Prop
  | .stringRange _ _, kind => kind = .string
  | .stringCount _, kind => kind = .string
  | .numberIncrement _, kind => kind ≠ .array
  | .numberRange _ _, kind => kind = .number
  | .floatRange _ _ _ _, _ => True
  | .floatCount _ _ _, _ => True
  | .floatRangeFixed _ _ _, _ => True
  | .floatFixed _ _, _ => True
  | .booleanRandom, kind => kind = .boolean
  | .booleanWeighted _ _, kind => kind = .boolean
  | .objectCount _, kind => kind = .object
  | .objectRange _ _, kind => kind = .object
  | .arrayPickOne, kind => kind = .array
  | .arrayPickSequential _, kind => kind = .array
  | .arrayRepeatRange _ _, kind => kind = .array
  | .arrayRepeatCount _, kind => kind = .array

/-- A rule with a point: its numbers have a fraction. -/
def isFraction : Rule → Bool
  | .floatRange _ _ _ _ => true
  | .floatCount _ _ _ => true
  | .floatRangeFixed _ _ _ => true
  | .floatFixed _ _ => true
  | _ => false

/-- A rule of a step: it counts on from the time before. -/
def isStep : Rule → Bool
  | .numberIncrement _ => true
  | .arrayPickSequential _ => true
  | _ => false

/-- A step suits every kind and has no point. -/
theorem ofStep_shape (step : Int) (kind : Kind) :
    (ofStep step kind).Suits kind ∧ (ofStep step kind).isFraction = false := by
  cases kind <;> simp [ofStep, Suits, isFraction]

/-- Two bounds suit every kind; they have no point and make no step. -/
theorem ofRange_shape (min max : Int) (kind : Kind) :
    (ofRange min max kind).Suits kind ∧ (ofRange min max kind).isFraction = false ∧
      (ofRange min max kind).isStep = false := by
  cases kind <;> exact ⟨rfl, rfl, rfl⟩

/-- One number suits every kind that it makes a rule for; it has no point and makes no step. -/
theorem ofCount?_shape {count : Int} {kind : Kind} {rule : Rule}
    (h : ofCount? count kind = some rule) :
    rule.Suits kind ∧ rule.isFraction = false ∧ rule.isStep = false := by
  cases kind <;> simp only [ofCount?, Option.ite_none_right_eq_some, Option.some.injEq] at h
  case boolean => obtain ⟨-, rfl⟩ := h; exact ⟨rfl, rfl, rfl⟩
  case array => subst h; split <;> exact ⟨rfl, rfl, rfl⟩
  all_goals subst h; exact ⟨rfl, rfl, rfl⟩

/-- A rule with a point suits every kind and makes no step. -/
theorem suits_of_isFraction {rule : Rule} (h : rule.isFraction = true) (kind : Kind) :
    rule.Suits kind ∧ rule.isStep = false := by
  cases rule <;> first | exact ⟨trivial, rfl⟩ | cases h

/-! ## What a text is read as -/

/-- A rule read from a text with a point has a point. -/
theorem isFraction_of_readDecimal? {text : List Char} {rule : Rule}
    (h : readDecimal? text = some rule) : rule.isFraction = true := by
  simp only [readDecimal?, Option.bind_eq_bind, Option.bind_eq_some_iff] at h
  obtain ⟨⟨whole, places⟩, -, h⟩ := h
  simp only at h
  split at h
  · cases h
  · simp only [Option.bind_eq_some_iff] at h
    obtain ⟨first, -, second, -, h⟩ := h
    cases first <;> cases second <;>
      (simp only [Option.some.injEq] at h; subst h; rfl)

/-- **What a text is read as**: a step after a plus sign, otherwise a rule with a point when it has
a point, and otherwise two bounds or one number. -/
theorem read?_cases {text : List Char} {kind : Kind} {rule : Rule}
    (h : read? text kind = some rule) :
    (∃ step, text = '+' :: step ∧ rule = ofStep ((Integer.read? step).getD 1) kind) ∨
      ('.' ∈ text ∧ rule.isFraction = true) ∨
      (∃ min max, rule = ofRange min max kind) ∨ ∃ count, ofCount? count kind = some rule := by
  unfold read? at h
  split at h
  · rename_i step
    exact Or.inl ⟨step, rfl, (Option.some.inj h).symm⟩
  · refine Or.inr ?_
    split at h
    · rename_i hpoint
      exact Or.inl ⟨hpoint, isFraction_of_readDecimal? h⟩
    · split at h
      · obtain ⟨⟨min, max⟩, -, hrule⟩ := Option.map_eq_some_iff.1 h
        exact Or.inr (Or.inl ⟨min, max, hrule.symm⟩)
      · obtain ⟨count, -, hrule⟩ := Option.bind_eq_some_iff.1 h
        exact Or.inr (Or.inr ⟨count, hrule⟩)

/-- A rule is read for kinds that it suits only. -/
theorem suits_of_read? {text : List Char} {kind : Kind} {rule : Rule}
    (h : read? text kind = some rule) : rule.Suits kind := by
  rcases read?_cases h with ⟨step, -, rfl⟩ | ⟨-, hfraction⟩ | ⟨min, max, rfl⟩ | ⟨count, hcount⟩
  · exact (ofStep_shape _ kind).1
  · exact (suits_of_isFraction hfraction kind).1
  · exact (ofRange_shape min max kind).1
  · exact (ofCount?_shape hcount).1

/-- A rule with a point is read from a text with a point. -/
theorem point_mem_of_read? {text : List Char} {kind : Kind} {rule : Rule}
    (h : read? text kind = some rule) (hfraction : rule.isFraction = true) : '.' ∈ text := by
  rcases read?_cases h with ⟨step, -, rfl⟩ | ⟨hpoint, -⟩ | ⟨min, max, rfl⟩ | ⟨count, hcount⟩
  · rw [(ofStep_shape _ kind).2] at hfraction; cases hfraction
  · exact hpoint
  · rw [(ofRange_shape min max kind).2.1] at hfraction; cases hfraction
  · rw [(ofCount?_shape hcount).2.1] at hfraction; cases hfraction

end Rule

/-! ## Rules that can be used -/

namespace Key

/-- The rule of a key that can be used on a value: the one that it has for the kind of the value,
when that rule has no fault. -/
def usable? (key : String) (value : Json) : Option Rule :=
  (value.kind?.bind (rule? key)).filter Rule.isValid

theorem usable?_eq_some_iff {key : String} {value : Json} {rule : Rule} :
    usable? key value = some rule ↔
      (∃ kind, value.kind? = some kind ∧ rule? key kind = some rule) ∧ rule.isValid = true := by
  simp only [usable?, Option.filter_eq_some_iff, Option.bind_eq_some_iff]

/-- A rule that can be used on a value stands behind the bar of the key, and suits the kind of the
value. -/
theorem of_usable?_eq_some {key : String} {value : Json} {rule : Rule}
    (h : usable? key value = some rule) :
    ∃ name text kind, split? key = some (name, text) ∧ value.kind? = some kind ∧
      Rule.read? text.toList kind = some rule ∧ rule.Suits kind := by
  obtain ⟨⟨kind, hkind, hrule⟩, -⟩ := usable?_eq_some_iff.1 h
  rw [rule?_eq] at hrule
  split at hrule
  · rename_i name text hsplit
    exact ⟨name, text, kind, hsplit, hkind, hrule, Rule.suits_of_read? hrule⟩
  · cases hrule

/-- A key that does not come apart has no rule that can be used. -/
theorem usable?_eq_none {key : String} (h : split? key = none) (value : Json) :
    usable? key value = none := by
  cases husable : usable? key value with
  | none => rfl
  | some rule =>
    obtain ⟨name, text, -, hsplit, -⟩ := of_usable?_eq_some husable
    rw [h] at hsplit
    cases hsplit

end Key

end Specimen
