import Mathlib.Data.List.Induction
import Specimen.Proofs.Scope.Operation

set_option autoImplicit false

/-!
# Histories of families

A history is a list of operations, each at the time of its position. The scopes are numbered in the
order of their making. Which scope is derived from which, and when, is written in the history; and
so are the family of a scope and what a scope sees: what is done to it, and what the scope that it
is derived from had seen by then.

## Main definitions

* `Specimen.Families.after`, `Specimen.Families.made` — what comes of a history, and how many scopes
  there are then.
* `Specimen.Families.Possible` — all operations are done on scopes that are there.
* `Specimen.Families.DerivedAt`, `Specimen.Families.Sees` — derivations, and what a scope sees.
* `Specimen.Families.Origin`, `Specimen.Families.SameFamily` — where scopes come from.

## Main results

* `Specimen.Families.made_cases` — the scopes after one operation more.
* `Specimen.Families.sees_append_of_lt`, `Specimen.Families.sees_append_made` — what they see.
* `Specimen.Families.origin_append_of_lt`, `Specimen.Families.origin_append_made` — where they come
  from.
-/

namespace Specimen.Families

/-! ## Histories -/

/-- The families after a history that begins without families. -/
def after (history : List Operation) : Families := history.foldl apply empty

theorem after_append_singleton (history : List Operation) (operation : Operation) :
    after (history ++ [operation]) = (after history).apply operation := by
  rw [after, List.foldl_append]
  rfl

/-- How many scopes there are after a history. -/
def made (history : List Operation) : Nat := history.countP Operation.makes

/-- All operations are done on scopes that are there. -/
def Possible (history : List Operation) : Prop :=
  ∀ d < history.length, ∀ n ∈ history[d]?.bind Operation.subject?, n < made (history.take d)

instance : DecidablePred Possible := fun history => inferInstanceAs (Decidable
  (∀ d < history.length, ∀ n ∈ history[d]?.bind Operation.subject?, n < made (history.take d)))

/-- A scope is derived from another at a time. -/
def DerivedAt (history : List Operation) (d parent n : Nat) : Prop :=
  ∃ operation, history[d]? = some operation ∧ operation.parent? = some parent ∧
    made (history.take d) = n

/-- A scope sees what is done to another, or itself, at a time: it is the same scope, or has been
derived later from one that sees it. -/
inductive Sees (history : List Operation) : (n m i : Nat) → Prop
  /-- A scope sees what is done to it. -/
  | own {n i : Nat} : Sees history n n i
  /-- A scope sees what the scope saw that it is derived from. -/
  | inherited {n m parent i d : Nat} : DerivedAt history d parent n → i < d →
      Sees history parent m i → Sees history n m i

/-- The first scope of the family of a scope is made at a time. -/
inductive Origin (history : List Operation) : (n d : Nat) → Prop
  /-- The scope is the first of its family. -/
  | fresh {d : Nat} : history[d]? = some .fresh → Origin history (made (history.take d)) d
  /-- The scope is of the family of the scope that it is derived from. -/
  | derived {n parent d e : Nat} : DerivedAt history e parent n → Origin history parent d →
      Origin history n d

/-- Two scopes come from the same first scope of a family. -/
def SameFamily (history : List Operation) (n m : Nat) : Prop :=
  ∃ d, Origin history n d ∧ Origin history m d

/-! ## One operation more -/

section Snoc

variable {history : List Operation} {operation : Operation}

theorem made_append_singleton (history : List Operation) (operation : Operation) :
    made (history ++ [operation]) = made history + if operation.makes then 1 else 0 := by
  rw [made, List.countP_append, List.countP_singleton]
  rfl

/-- Operations stay at their times, and the new one comes last. -/
theorem getElem?_append_singleton {d : Nat} {other : Operation} :
    (history ++ [operation])[d]? = some other ↔
      history[d]? = some other ∨ d = history.length ∧ operation = other := by
  rcases Nat.lt_trichotomy d history.length with h | rfl | h
  · rw [List.getElem?_append_left h]
    simp [Nat.ne_of_lt h]
  · simp
  · rw [List.getElem?_eq_none (by simp; omega), List.getElem?_eq_none (by omega)]
    simp [Nat.ne_of_gt h]

theorem lt_of_getElem? {d : Nat} {other : Operation} (h : history[d]? = some other) :
    d < history.length := (List.getElem?_eq_some_iff.1 h).1

theorem le_length_of_getElem? {d : Nat} {other : Operation}
    (h : (history ++ [operation])[d]? = some other) : d ≤ history.length := by
  have hlt := lt_of_getElem? h
  rw [List.length_append, List.length_singleton] at hlt
  exact Nat.lt_succ_iff.1 hlt

theorem take_append_singleton {d : Nat} (h : d ≤ history.length) :
    (history ++ [operation]).take d = history.take d := List.take_append_of_le_length h

theorem made_take_le (history : List Operation) (d : Nat) : made (history.take d) ≤ made history :=
  (List.take_sublist d history).countP_le

/-- What is counted at a time is counted later, and not before. -/
theorem countP_take_lt {counts : Operation → Bool} {d e : Nat} (h : history[d]? = some operation)
    (hcounts : counts operation = true) (hlater : d < e) :
    (history.take d).countP counts < (history.take e).countP counts := by
  have hle : (history.take (d + 1)).countP counts ≤ (history.take e).countP counts :=
    (List.take_sublist_take_left hlater).countP_le
  rw [List.take_add_one, h, Option.toList_some, List.countP_append, List.countP_singleton,
    if_pos hcounts] at hle
  omega

/-- A scope that is made has a number below that of the scopes there are. -/
theorem made_take_lt {d : Nat} (h : history[d]? = some operation)
    (hmakes : operation.makes = true) : made (history.take d) < made history := by
  have hlt := countP_take_lt h hmakes (lt_of_getElem? h)
  rwa [List.take_length] at hlt

/-- A scope was there before, or is the first of a family, or is derived. -/
theorem made_cases {n : Nat} (hn : n < made (history ++ [operation])) :
    n < made history ∨
      n = made history ∧ (operation = .fresh ∨ ∃ parent, operation.parent? = some parent) := by
  rw [made_append_singleton] at hn
  by_cases hmakes : operation.makes = true
  · rw [if_pos hmakes] at hn
    rcases Nat.lt_or_eq_of_le (Nat.lt_succ_iff.1 hn) with hlt | heq
    · exact Or.inl hlt
    · refine Or.inr ⟨heq, ?_⟩
      cases hparent : operation.parent? with
      | none => exact Or.inl (Operation.eq_fresh hmakes hparent)
      | some parent => exact Or.inr ⟨parent, rfl⟩
  · rw [if_neg hmakes] at hn
    exact Or.inl hn

theorem possible_append_singleton :
    Possible (history ++ [operation]) ↔
      Possible history ∧ ∀ n, operation.subject? = some n → n < made history := by
  constructor
  · intro h
    refine ⟨fun d hd n hn => ?_, fun n hn => ?_⟩
    · have hnew := h d (by simp; omega) n (by rwa [List.getElem?_append_left hd])
      rwa [take_append_singleton (Nat.le_of_lt hd)] at hnew
    · have hnew := h history.length (by simp) n (by simpa using hn)
      rwa [List.take_left] at hnew
  · rintro ⟨hold, hnew⟩ d hd n hn
    rw [List.length_append, List.length_singleton, Nat.lt_succ_iff] at hd
    rw [take_append_singleton hd]
    rcases Nat.lt_or_eq_of_le hd with hlt | rfl
    · exact hold d hlt n (by rwa [List.getElem?_append_left hlt] at hn)
    · rw [List.take_length]
      exact hnew n (by simpa using hn)

/-- What is done is done on scopes that are there. -/
theorem Possible.subject_lt (h : Possible history) {d n : Nat}
    (hd : history[d]? = some operation) (hn : operation.subject? = some n) :
    n < made (history.take d) :=
  h d (lt_of_getElem? hd) n (by rw [hd]; exact hn)

theorem Possible.subject_lt_made (h : Possible history) {d n : Nat}
    (hd : history[d]? = some operation) (hn : operation.subject? = some n) : n < made history :=
  Nat.lt_of_lt_of_le (h.subject_lt hd hn) (made_take_le history d)

/-- A new scope is derived from one that is there. -/
theorem Possible.parent_lt (h : Possible (history ++ [operation])) {parent : Nat}
    (hparent : operation.parent? = some parent) : parent < made history :=
  (possible_append_singleton.1 h).2 parent (Operation.subject?_of_parent? hparent)

/-- The one derivation that is new is that of the new scope. -/
theorem derivedAt_append_singleton {d parent n : Nat} :
    DerivedAt (history ++ [operation]) d parent n ↔ DerivedAt history d parent n ∨
      d = history.length ∧ operation.parent? = some parent ∧ n = made history := by
  constructor
  · rintro ⟨other, hat, hparent, rfl⟩
    rcases getElem?_append_singleton.1 hat with hold | ⟨rfl, rfl⟩
    · rw [take_append_singleton (Nat.le_of_lt (lt_of_getElem? hold))]
      exact Or.inl ⟨other, hold, hparent, rfl⟩
    · exact Or.inr ⟨rfl, hparent, by rw [List.take_left]⟩
  · rintro (⟨other, hold, hparent, rfl⟩ | ⟨rfl, hparent, rfl⟩)
    · exact ⟨other, getElem?_append_singleton.2 (Or.inl hold), hparent,
        by rw [take_append_singleton (Nat.le_of_lt (lt_of_getElem? hold))]⟩
    · exact ⟨operation, getElem?_append_singleton.2 (Or.inr ⟨rfl, rfl⟩), hparent,
        by rw [List.take_left]⟩

theorem DerivedAt.lt {d parent n : Nat} (h : DerivedAt history d parent n) :
    d < history.length ∧ n < made history := by
  obtain ⟨other, hat, hparent, rfl⟩ := h
  exact ⟨lt_of_getElem? hat, made_take_lt hat (Operation.makes_of_parent? hparent)⟩

/-- A scope is made after the one that it is derived from. -/
theorem DerivedAt.parent_lt (hpossible : Possible history) {d parent n : Nat}
    (h : DerivedAt history d parent n) : parent < n := by
  obtain ⟨other, hat, hparent, rfl⟩ := h
  exact hpossible.subject_lt hat (Operation.subject?_of_parent? hparent)

/-- How a scope has been derived that is there does not change. -/
theorem derivedAt_append_of_lt {d parent n : Nat} (hn : n < made history) :
    DerivedAt (history ++ [operation]) d parent n ↔ DerivedAt history d parent n := by
  rw [derivedAt_append_singleton]
  exact or_iff_left fun h => Nat.ne_of_lt hn h.2.2

/-- The new scope is derived from the subject of the operation. -/
theorem derivedAt_append_made {d parent : Nat} :
    DerivedAt (history ++ [operation]) d parent (made history) ↔
      d = history.length ∧ operation.parent? = some parent := by
  rw [derivedAt_append_singleton]
  constructor
  · rintro (hold | ⟨hd, hparent, -⟩)
    · exact absurd hold.lt.2 (Nat.lt_irrefl _)
    · exact ⟨hd, hparent⟩
  · rintro ⟨hd, hparent⟩
    exact Or.inr ⟨hd, hparent, rfl⟩

/-- What a scope sees that is there does not change. -/
theorem sees_append_of_lt (hpossible : Possible history) {n m i : Nat} (hn : n < made history) :
    Sees (history ++ [operation]) n m i ↔ Sees history n m i := by
  constructor
  · intro h
    induction h with
    | own => exact .own
    | inherited hderived hi _ ih =>
      have hold := (derivedAt_append_of_lt hn).1 hderived
      exact .inherited hold hi (ih (Nat.lt_trans (hold.parent_lt hpossible) hn))
  · intro h
    clear hn
    induction h with
    | own => exact .own
    | inherited hderived hi _ ih =>
      exact .inherited (derivedAt_append_singleton.2 (Or.inl hderived)) hi ih

/-- The new scope sees itself, and what its parent has seen so far. -/
theorem sees_append_made (hpossible : Possible (history ++ [operation])) {m i : Nat} :
    Sees (history ++ [operation]) (made history) m i ↔
      m = made history ∨ ∃ parent, operation.parent? = some parent ∧ i < history.length ∧
        Sees history parent m i := by
  obtain ⟨hold, -⟩ := possible_append_singleton.1 hpossible
  constructor
  · rintro (_ | ⟨hderived, hi, hsees⟩)
    · exact Or.inl rfl
    · obtain ⟨rfl, hparent⟩ := derivedAt_append_made.1 hderived
      exact Or.inr ⟨_, hparent, hi, (sees_append_of_lt hold (hpossible.parent_lt hparent)).1 hsees⟩
  · rintro (rfl | ⟨parent, hparent, hi, hsees⟩)
    · exact .own
    · exact .inherited (derivedAt_append_made.2 ⟨rfl, hparent⟩) hi
        ((sees_append_of_lt hold (hpossible.parent_lt hparent)).2 hsees)

/-- After the last operation a scope sees itself only. -/
theorem Sees.eq_of_length_le {n m i : Nat} (h : Sees history n m i) (hi : history.length ≤ i) :
    n = m := by
  cases h with
  | own => rfl
  | inherited hderived hlt _ => exact absurd hderived.lt.1 (by omega)

theorem Origin.getElem? {n d : Nat} (h : Origin history n d) : history[d]? = some .fresh := by
  induction h with
  | fresh hat => exact hat
  | derived _ _ ih => exact ih

/-- Where a scope comes from that is there does not change. -/
theorem origin_append_of_lt (hpossible : Possible history) {n d : Nat} (hn : n < made history) :
    Origin (history ++ [operation]) n d ↔ Origin history n d := by
  constructor
  · intro h
    induction h with
    | fresh hat =>
      rcases getElem?_append_singleton.1 hat with hold | ⟨rfl, rfl⟩
      · rw [take_append_singleton (Nat.le_of_lt (lt_of_getElem? hold))]
        exact .fresh hold
      · rw [List.take_left] at hn
        exact absurd hn (Nat.lt_irrefl _)
    | derived hderived _ ih =>
      have hold := (derivedAt_append_of_lt hn).1 hderived
      exact .derived hold (ih (Nat.lt_trans (hold.parent_lt hpossible) hn))
  · intro h
    clear hn
    induction h with
    | @fresh d hat =>
      have hlater : (history ++ [operation])[d]? = some Operation.fresh :=
        getElem?_append_singleton.2 (Or.inl hat)
      have hnew := Origin.fresh hlater
      rwa [take_append_singleton (Nat.le_of_lt (lt_of_getElem? hat))] at hnew
    | derived hderived _ ih =>
      exact .derived (derivedAt_append_singleton.2 (Or.inl hderived)) ih

/-- The new scope is the first of a family, or comes from where its parent comes from. -/
theorem origin_append_made (hpossible : Possible (history ++ [operation])) {d : Nat} :
    Origin (history ++ [operation]) (made history) d ↔
      (operation = .fresh ∧ d = history.length) ∨
        ∃ parent, operation.parent? = some parent ∧ Origin history parent d := by
  obtain ⟨hold, -⟩ := possible_append_singleton.1 hpossible
  constructor
  · intro h
    generalize hn : made history = n at h
    cases h with
    | fresh hat =>
      rcases getElem?_append_singleton.1 hat with hfirst | ⟨rfl, rfl⟩
      · rw [take_append_singleton (Nat.le_of_lt (lt_of_getElem? hfirst))] at hn
        exact absurd hn (Nat.ne_of_gt (made_take_lt hfirst rfl))
      · exact Or.inl ⟨rfl, rfl⟩
    | derived hderived horigin =>
      subst hn
      obtain ⟨rfl, hparent⟩ := derivedAt_append_made.1 hderived
      exact Or.inr ⟨_, hparent, (origin_append_of_lt hold (hpossible.parent_lt hparent)).1 horigin⟩
  · rintro (⟨rfl, rfl⟩ | ⟨parent, hparent, horigin⟩)
    · have hlast : (history ++ [.fresh])[history.length]? = some Operation.fresh := by simp
      have hnew := Origin.fresh hlast
      rwa [List.take_left] at hnew
    · exact .derived (derivedAt_append_made.2 ⟨rfl, hparent⟩)
        ((origin_append_of_lt hold (hpossible.parent_lt hparent)).2 horigin)

end Snoc

end Specimen.Families
