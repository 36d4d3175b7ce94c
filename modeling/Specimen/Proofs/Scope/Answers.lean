import Specimen.Proofs.Scope.History

set_option autoImplicit false

/-!
# What scopes answer

After any history a scope answers with the last of the values that concern the question: under a
name those that it sees, under a full path those that its family has kept there. Both follow by
induction on the history, from what one operation changes and what it adds to the history.

## Main definitions

* `Specimen.IsLatest` — the last value of those at some times.
* `Specimen.Families.Recorded`, `Specimen.Families.RecordedUnder` — the values that concern a name,
  and those that concern a full path.

## Main results

* `Specimen.Families.isLatest_local?` — the values of a scope.
* `Specimen.Families.sameFamily_iff` — families are those of the history.
* `Specimen.Families.isLatest_value?` — the values under full paths.
* `Specimen.Families.answers_after` — what scopes answer after any history.
-/

namespace Specimen

/-- The value is the one at the last of some times; nothing is the answer when there is none. -/
def IsLatest {α : Type} (occurs : Nat → α → Prop) : Option α → Prop
  | some value => ∃ i, occurs i value ∧ ∀ j other, occurs j other → j ≤ i
  | none => ∀ i value, ¬occurs i value

theorem IsLatest.congr {α : Type} {first second : Nat → α → Prop}
    (h : ∀ i value, first i value ↔ second i value) {answer : Option α}
    (hlatest : IsLatest first answer) : IsLatest second answer := by
  cases answer with
  | none => exact fun i value hat => hlatest i value ((h i value).2 hat)
  | some value =>
    obtain ⟨i, hat, hlast⟩ := hlatest
    exact ⟨i, (h i value).1 hat, fun j other hother => hlast j other ((h j other).2 hother)⟩

namespace Families

/-! ## What scopes hold -/

theorem length_members_after (history : List Operation) :
    (after history).members.length = made history := by
  induction history using List.reverseRecOn with
  | nil => rfl
  | append_singleton history operation ih =>
    rw [after_append_singleton, length_apply, made_append_singleton, ih]

/-- A value is kept under a name at a time, where a scope sees it. -/
def Recorded (history : List Operation) (n : Nat) (name : String) (i : Nat) (value : Json) : Prop :=
  ∃ m, history[i]? = some (.record m name value) ∧ Sees history n m i

section Locals

variable {history : List Operation} {operation : Operation}

/-- A scope that is there sees a value more when it is kept in the scope itself. -/
theorem recorded_append_of_lt (hpossible : Possible history) {n : Nat} (hn : n < made history)
    {name : String} {i : Nat} {value : Json} :
    Recorded (history ++ [operation]) n name i value ↔
      Recorded history n name i value ∨ i = history.length ∧ operation = .record n name value := by
  constructor
  · rintro ⟨m, hat, hsees⟩
    have hold := (sees_append_of_lt hpossible hn).1 hsees
    rcases getElem?_append_singleton.1 hat with hi | ⟨rfl, rfl⟩
    · exact Or.inl ⟨m, hi, hold⟩
    · exact Or.inr ⟨rfl, by rw [hold.eq_of_length_le (Nat.le_refl _)]⟩
  · rintro (⟨m, hat, hsees⟩ | ⟨rfl, rfl⟩)
    · exact ⟨m, getElem?_append_singleton.2 (Or.inl hat), (sees_append_of_lt hpossible hn).2 hsees⟩
    · exact ⟨n, getElem?_append_singleton.2 (Or.inr ⟨rfl, rfl⟩), .own⟩

/-- A new scope sees the values that its parent sees. -/
theorem recorded_append_made (hpossible : Possible (history ++ [operation]))
    (hmakes : operation.makes = true) {name : String} {i : Nat} {value : Json} :
    Recorded (history ++ [operation]) (made history) name i value ↔
      ∃ parent, operation.parent? = some parent ∧ Recorded history parent name i value := by
  obtain ⟨hold, -⟩ := possible_append_singleton.1 hpossible
  constructor
  · rintro ⟨m, hat, hsees⟩
    rcases getElem?_append_singleton.1 hat with hi | ⟨-, rfl⟩
    · rcases (sees_append_made hpossible).1 hsees with rfl | ⟨parent, hparent, -, hsees⟩
      · -- Nothing has been done to a scope before it was made.
        exact absurd (hold.subject_lt hi rfl) (Nat.not_lt.2 (made_take_le history i))
      · exact ⟨parent, hparent, m, hi, hsees⟩
    · cases hmakes
  · rintro ⟨parent, hparent, m, hi, hsees⟩
    exact ⟨m, getElem?_append_singleton.2 (Or.inl hi),
      (sees_append_made hpossible).2 (Or.inr ⟨parent, hparent, lt_of_getElem? hi, hsees⟩)⟩

/-- **What a scope holds under a name is the last value that it sees.**

**Proof sketch.** By induction on the history. A value that is kept is later than all others; it is
seen by the scope itself and by no other that is there. A new scope holds, and sees, what its parent
holds and sees. -/
theorem isLatest_local? (hpossible : Possible history) {n : Nat} (hn : n < made history)
    (name : String) :
    IsLatest (Recorded history n name) (((after history).scope n).local? name) := by
  induction history using List.reverseRecOn generalizing n with
  | nil => cases hn
  | append_singleton history operation ih =>
    obtain ⟨hold, -⟩ := possible_append_singleton.1 hpossible
    have hlength := length_members_after history
    rw [after_append_singleton]
    rcases made_cases hn with hlt | ⟨rfl, rfl | ⟨parent, hparent⟩⟩
    · by_cases hrecord : ∃ value, operation = .record n name value
      · obtain ⟨value, rfl⟩ := hrecord
        rw [local?_apply_record _ (hlength ▸ hlt)]
        refine ⟨history.length, (recorded_append_of_lt hold hlt).2 (Or.inr ⟨rfl, rfl⟩), ?_⟩
        rintro j other ⟨m, hat, -⟩
        exact le_length_of_getElem? hat
      · rw [local?_apply_of_ne _ (hlength ▸ hlt) fun value heq => hrecord ⟨value, heq⟩]
        refine (ih hold hlt).congr fun i value => ?_
        rw [recorded_append_of_lt hold hlt]
        exact (or_iff_left fun h => hrecord ⟨value, h.2⟩).symm
    · rw [← hlength, scope, member_apply_fresh, hlength]
      intro i value hrecorded
      obtain ⟨parent, hsome, -⟩ := (recorded_append_made hpossible rfl).1 hrecorded
      cases hsome
    · obtain ⟨-, hlocals⟩ := (after history).member_apply_parent hparent
      rw [← hlength, Scope.local?, hlocals, hlength]
      refine (ih hold (hpossible.parent_lt hparent)).congr fun i value => ?_
      rw [recorded_append_made hpossible (Operation.makes_of_parent? hparent)]
      constructor
      · intro h
        exact ⟨parent, hparent, h⟩
      · rintro ⟨other, hsome, h⟩
        obtain rfl := Option.some.inj (hparent.symm.trans hsome)
        exact h

end Locals

/-! ## Families and what their ledgers hold -/

section Ledgers

variable {history : List Operation} {operation : Operation}

theorem length_ledgers_after (history : List Operation) :
    (after history).ledgers.length = history.countP Operation.isFresh := by
  induction history using List.reverseRecOn with
  | nil => rfl
  | append_singleton history operation ih =>
    rw [after_append_singleton, length_ledgers_apply, List.countP_append, List.countP_singleton, ih]

/-- Every scope comes from a first scope of a family. -/
theorem exists_origin (hpossible : Possible history) {n : Nat} (hn : n < made history) :
    ∃ d, Origin history n d := by
  induction history using List.reverseRecOn generalizing n with
  | nil => cases hn
  | append_singleton history operation ih =>
    obtain ⟨hold, -⟩ := possible_append_singleton.1 hpossible
    rcases made_cases hn with hlt | ⟨rfl, rfl | ⟨parent, hparent⟩⟩
    · obtain ⟨d, horigin⟩ := ih hold hlt
      exact ⟨d, (origin_append_of_lt hold hlt).2 horigin⟩
    · exact ⟨history.length, (origin_append_made hpossible).2 (Or.inl ⟨rfl, rfl⟩)⟩
    · obtain ⟨d, horigin⟩ := ih hold (hpossible.parent_lt hparent)
      exact ⟨d, (origin_append_made hpossible).2 (Or.inr ⟨parent, hparent, horigin⟩)⟩

/-- Families are numbered in the order of their first scopes. -/
theorem Origin.family_eq (hpossible : Possible history) {n d : Nat} (hn : n < made history)
    (h : Origin history n d) :
    ((after history).member n).family = (history.take d).countP Operation.isFresh := by
  induction history using List.reverseRecOn generalizing n with
  | nil => cases hn
  | append_singleton history operation ih =>
    obtain ⟨hold, -⟩ := possible_append_singleton.1 hpossible
    have hlength := length_members_after history
    rw [after_append_singleton, take_append_singleton (le_length_of_getElem? h.getElem?)]
    rcases made_cases hn with hlt | ⟨rfl, hnew⟩
    · rw [(member_apply _ (hlength ▸ hlt) operation).1]
      exact ih hold hlt ((origin_append_of_lt hold hlt).1 h)
    · rcases (origin_append_made hpossible).1 h with ⟨rfl, rfl⟩ | ⟨parent, hparent, horigin⟩
      · rw [← hlength, member_apply_fresh, List.take_length]
        exact length_ledgers_after history
      · rw [← hlength, (member_apply_parent _ hparent).1]
        exact ih hold (hpossible.parent_lt hparent) horigin

/-- Every scope has a ledger. -/
theorem family_lt (hpossible : Possible history) {n : Nat} (hn : n < made history) :
    ((after history).member n).family < (after history).ledgers.length := by
  obtain ⟨d, horigin⟩ := exists_origin hpossible hn
  have hlt : (history.take d).countP Operation.isFresh <
      (history.take history.length).countP Operation.isFresh :=
    countP_take_lt horigin.getElem? rfl (lt_of_getElem? horigin.getElem?)
  rw [horigin.family_eq hpossible hn, length_ledgers_after]
  rwa [List.take_length] at hlt

/-- **Families are those of the history**: two scopes share a ledger when they come from the same
first scope. -/
theorem sameFamily_iff (hpossible : Possible history) {n m : Nat} (hn : n < made history)
    (hm : m < made history) :
    SameFamily history n m ↔
      ((after history).member n).family = ((after history).member m).family := by
  constructor
  · rintro ⟨d, hfirst, hsecond⟩
    rw [hfirst.family_eq hpossible hn, hsecond.family_eq hpossible hm]
  · intro h
    obtain ⟨d, hfirst⟩ := exists_origin hpossible hn
    obtain ⟨e, hsecond⟩ := exists_origin hpossible hm
    rw [hfirst.family_eq hpossible hn, hsecond.family_eq hpossible hm] at h
    rcases Nat.lt_trichotomy d e with hlt | rfl | hlt
    · exact absurd h (Nat.ne_of_lt (countP_take_lt hfirst.getElem? rfl hlt))
    · exact ⟨d, hfirst, hsecond⟩
    · exact absurd h (Nat.ne_of_gt (countP_take_lt hsecond.getElem? rfl hlt))

/-- A value is kept at a time under a full path, by a scope of a family. -/
def RecordedIn (history : List Operation) (family : Nat) (path : String) (i : Nat) (value : Json) :
    Prop :=
  ∃ m name, history[i]? = some (.record m name value) ∧
    ((after history).member m).family = family ∧ ((after history).scope m).key name = path

/-- What has been kept in a family stays kept there. -/
theorem recordedIn_append (hpossible : Possible (history ++ [operation])) {family : Nat}
    {path : String} {i : Nat} {value : Json} :
    RecordedIn (history ++ [operation]) family path i value ↔
      RecordedIn history family path i value ∨ i = history.length ∧
        ∃ m name, operation = .record m name value ∧
          ((after history).member m).family = family ∧
            ((after history).scope m).key name = path := by
  obtain ⟨hold, hsubject⟩ := possible_append_singleton.1 hpossible
  have hsame : ∀ {m : Nat} (name : String), m < made history →
      ((after (history ++ [operation])).member m).family = ((after history).member m).family ∧
        ((after (history ++ [operation])).scope m).key name =
          ((after history).scope m).key name := by
    intro m name hm
    obtain ⟨hfamily, hpath⟩ :=
      (after history).member_apply (length_members_after history ▸ hm) operation
    rw [after_append_singleton]
    exact ⟨hfamily, by rw [Scope.key, Scope.key, hpath]⟩
  have hlt : ∀ {m name}, history[i]? = some (.record m name value) → m < made history :=
    fun hat => hold.subject_lt_made hat rfl
  constructor
  · rintro ⟨m, name, hat, hfamily, hkey⟩
    rcases getElem?_append_singleton.1 hat with hi | ⟨rfl, rfl⟩
    · obtain ⟨hf, hk⟩ := hsame name (hlt hi)
      exact Or.inl ⟨m, name, hi, hf ▸ hfamily, hk ▸ hkey⟩
    · obtain ⟨hf, hk⟩ := hsame name (hsubject m rfl)
      exact Or.inr ⟨rfl, m, name, rfl, hf ▸ hfamily, hk ▸ hkey⟩
  · rintro (⟨m, name, hi, hfamily, hkey⟩ | ⟨rfl, m, name, rfl, hfamily, hkey⟩)
    · obtain ⟨hf, hk⟩ := hsame name (hlt hi)
      exact ⟨m, name, getElem?_append_singleton.2 (Or.inl hi), hf ▸ hfamily, hk ▸ hkey⟩
    · obtain ⟨hf, hk⟩ := hsame name (hsubject m rfl)
      exact ⟨m, name, getElem?_append_singleton.2 (Or.inr ⟨rfl, rfl⟩), hf ▸ hfamily, hk ▸ hkey⟩

/-- **What the ledger of a family holds at a path is the last value kept there in the family.**

**Proof sketch.** By induction on the history. A value that is kept is later than all others, and is
found in the ledger of its family under its path only. The ledger of a new family is empty, and
nothing has been kept in it. -/
theorem isLatest_ledgerOf (hpossible : Possible history) {family : Nat}
    (hfamily : family < (after history).ledgers.length) (path : String) :
    IsLatest (RecordedIn history family path)
      (((after history).ledgerOf family).value? path) := by
  induction history using List.reverseRecOn with
  | nil => cases hfamily
  | append_singleton history operation ih =>
    obtain ⟨hold, -⟩ := possible_append_singleton.1 hpossible
    rw [after_append_singleton] at hfamily ⊢
    rcases family_cases _ hfamily with hlt | ⟨rfl, rfl⟩
    · by_cases hrecord : ∃ m name value, operation = .record m name value ∧
        ((after history).member m).family = family ∧ ((after history).scope m).key name = path
      · obtain ⟨m, name, value, rfl, rfl, rfl⟩ := hrecord
        rw [value?_apply_record _ hlt]
        refine ⟨history.length,
          (recordedIn_append hpossible).2 (Or.inr ⟨rfl, m, name, rfl, rfl, rfl⟩), ?_⟩
        rintro j other ⟨_, _, hat, -⟩
        exact le_length_of_getElem? hat
      · rw [value?_apply_of_ne _ hlt fun m name value heq hf hk =>
          hrecord ⟨m, name, value, heq, hf, hk⟩]
        refine (ih hold hlt).congr fun i value => ?_
        rw [recordedIn_append hpossible]
        refine (or_iff_left ?_).symm
        rintro ⟨-, m, name, heq, hf, hk⟩
        exact hrecord ⟨m, name, value, heq, hf, hk⟩
    · rw [ledgerOf_apply_fresh]
      intro i value hrecorded
      rcases (recordedIn_append hpossible).1 hrecorded with
        ⟨m, name, hat, hnew, -⟩ | ⟨-, m, name, heq, -⟩
      · have hm := hold.subject_lt_made hat rfl
        exact absurd (family_lt hold hm) (Nat.not_lt.2 (Nat.le_of_eq hnew.symm))
      · cases heq

/-- A value is kept at a time under a full path, by a scope of the family of another. -/
def RecordedUnder (history : List Operation) (n : Nat) (path : String) (i : Nat) (value : Json) :
    Prop :=
  ∃ m name, history[i]? = some (.record m name value) ∧ SameFamily history n m ∧
    ((after history).scope m).key name = path

/-- **What is under a full path is the last value that the family has kept there.** -/
theorem isLatest_value? (hpossible : Possible history) {n : Nat} (hn : n < made history)
    (path : String) :
    IsLatest (RecordedUnder history n path) (((after history).ledger n).value? path) := by
  refine (isLatest_ledgerOf hpossible (family_lt hpossible hn) path).congr fun i value => ?_
  have hfamily : ∀ {m name}, history[i]? = some (.record m name value) →
      (((after history).member m).family = ((after history).member n).family ↔
        SameFamily history n m) := fun hat =>
    eq_comm.trans (sameFamily_iff hpossible hn (hpossible.subject_lt_made hat rfl)).symm
  constructor
  · rintro ⟨m, name, hat, hsame, hkey⟩
    exact ⟨m, name, hat, (hfamily hat).1 hsame, hkey⟩
  · rintro ⟨m, name, hat, hsame, hkey⟩
    exact ⟨m, name, hat, (hfamily hat).2 hsame, hkey⟩

/-- **Nothing that is done to other families shows**: a scope and its ledger stay as they are.

**Proof sketch.** An operation changes the members of its own scope and the ledger of its own family
only, and a scope that is in no family with another shares neither with it. -/
theorem after_append_of_not_sameFamily (hpossible : Possible (history ++ [operation])) {n : Nat}
    (hn : n < made history)
    (hother : ∀ m, operation.subject? = some m → ¬SameFamily history n m) :
    (after (history ++ [operation])).scope n = (after history).scope n ∧
      (after (history ++ [operation])).ledger n = (after history).ledger n := by
  obtain ⟨hold, hsubject⟩ := possible_append_singleton.1 hpossible
  have hmember : (after (history ++ [operation])).member n = (after history).member n := by
    rw [after_append_singleton]
    refine member_apply_of_ne _ (length_members_after history ▸ hn) fun name value heq => ?_
    obtain ⟨d, horigin⟩ := exists_origin hold hn
    exact hother n (by rw [heq]; rfl) ⟨d, horigin, horigin⟩
  have hledger : (after (history ++ [operation])).ledgerOf ((after history).member n).family =
      (after history).ledgerOf ((after history).member n).family := by
    rw [after_append_singleton]
    refine ledgerOf_apply_of_ne _ (family_lt hold hn) fun m hm heq => hother m hm ?_
    exact (sameFamily_iff hold hn (hsubject m hm)).2 heq.symm
  refine ⟨by rw [scope, hmember, scope], ?_⟩
  have hown : (after (history ++ [operation])).ledger n =
      (after (history ++ [operation])).ledgerOf ((after history).member n).family := by
    rw [← hmember]
    rfl
  exact hown.trans hledger

end Ledgers

/-! ## Answers -/

/-- **What scopes answer after any history.** A name means the last value that was kept under it in
the scope, or in a scope that it comes from, before the derivation; a full path means the last value
that any scope of the family has kept under that path; a reference means the second when it has a
point in it, and the first otherwise; and what is done to other families changes no answer.

**Proof sketch.** By induction on the history. An operation adds at the end, so that what it keeps
is the latest under its name or path, and all else stays the latest that it was; a derived scope
begins with what its parent has at that time. -/
theorem answers_after {history : List Operation} (hpossible : Possible history) {n : Nat}
    (hn : n < made history) :
    (∀ name, IsLatest (fun i value => ∃ m, history[i]? = some (.record m name value) ∧
        Sees history n m i) (((after history).scope n).local? name)) ∧
      (∀ path, IsLatest (fun i value => ∃ m name, history[i]? = some (.record m name value) ∧
        SameFamily history n m ∧ ((after history).scope m).key name = path)
          (((after history).ledger n).value? path)) ∧
      (∀ reference, ((after history).scope n).find? ((after history).ledger n) reference =
        if '.' ∈ reference.toList then ((after history).ledger n).value? reference
        else ((after history).scope n).local? reference) ∧
      ∀ operation, Possible (history ++ [operation]) →
        (∀ m, operation.subject? = some m → ¬SameFamily history n m) →
          (after (history ++ [operation])).scope n = (after history).scope n ∧
            (after (history ++ [operation])).ledger n = (after history).ledger n := by
  refine ⟨isLatest_local? hpossible hn, isLatest_value? hpossible hn, fun reference => rfl, ?_⟩
  intro operation hmore hother
  exact after_append_of_not_sameFamily hmore hn hother

/-- A value is kept in a scope, which is copied before another value is kept there. -/
theorem answers_after_copy :
    Possible [.fresh, .record 0 "a" (.bool true), .copy 0, .record 0 "a" (.bool false)] ∧
      1 < made [.fresh, .record 0 "a" (.bool true), .copy 0, .record 0 "a" (.bool false)] ∧
      IsLatest (fun i value => ∃ m, [Operation.fresh, .record 0 "a" (.bool true), .copy 0,
          .record 0 "a" (.bool false)][i]? = some (.record m "a" value) ∧
        Sees [.fresh, .record 0 "a" (.bool true), .copy 0, .record 0 "a" (.bool false)] 1 m i)
          (some (.bool true)) := by
  have hpossible : Possible [.fresh, .record 0 "a" (.bool true), .copy 0,
      .record 0 "a" (.bool false)] := by decide
  have hmade : 1 < made [.fresh, .record 0 "a" (.bool true), .copy 0,
      .record 0 "a" (.bool false)] := by decide
  exact ⟨hpossible, hmade, (answers_after hpossible hmade).1 "a"⟩


end Families

end Specimen
