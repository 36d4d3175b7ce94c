import Specimen.Scope.Family

set_option autoImplicit false

/-!
# Operations on families

Families change by five operations. Three of them make a scope, which begins a family or is derived
from another scope; a value that is kept changes one scope, and the ledger of its family; a counter
that moves on changes a ledger. Everything else stays.

## Main definitions

* `Specimen.Families.Operation`, `Specimen.Families.apply` — what is done to families, and what
  comes of it.
* `Specimen.Families.ledgerOf` — the ledger of a family.

## Main results

* `Specimen.Families.member_apply`, `Specimen.Families.local?_apply_of_ne` — what stays in a scope.
* `Specimen.Families.member_apply_fresh`, `Specimen.Families.member_apply_parent` — new scopes.
* `Specimen.Families.ledgerOf_apply_of_ne`, `Specimen.Families.value?_apply_of_ne` — what stays in a
  ledger.
-/

namespace Specimen.Families

/-! ## Operations -/

/-- What is done to families. -/
inductive Operation where
  /-- A scope of a new family is made. -/
  | fresh
  /-- A scope like another is made. -/
  | copy (n : Nat)
  /-- The scope of a property of another is made. -/
  | derive (n : Nat) (name : String)
  /-- A value is kept. -/
  | record (n : Nat) (name : String) (value : Json)
  /-- A counter moves on. -/
  | advance (n : Nat) (key : String) (seed step : Int)

namespace Operation

/-- The scope that is there before and that the operation is done on. -/
def subject? : Operation → Option Nat
  | .fresh => none
  | .copy n | .derive n _ | .record n _ _ | .advance n _ _ _ => some n

/-- The scope from which a new one is derived. -/
def parent? : Operation → Option Nat
  | .copy n | .derive n _ => some n
  | .fresh | .record _ _ _ | .advance _ _ _ _ => none

/-- A scope is made. -/
def makes : Operation → Bool
  | .fresh | .copy _ | .derive _ _ => true
  | .record _ _ _ | .advance _ _ _ _ => false

/-- A family is made. -/
def isFresh : Operation → Bool
  | .fresh => true
  | .copy _ | .derive _ _ | .record _ _ _ | .advance _ _ _ _ => false

theorem subject?_of_parent? {operation : Operation} {n : Nat} (h : operation.parent? = some n) :
    operation.subject? = some n := by
  cases operation <;> first | exact h | cases h

theorem eq_fresh {operation : Operation} (hmakes : operation.makes = true)
    (hparent : operation.parent? = none) : operation = .fresh := by
  cases operation with
  | fresh => rfl
  | copy n | derive n name => cases hparent
  | record n name value | advance n key seed step => cases hmakes

theorem makes_of_parent? {operation : Operation} {n : Nat} (h : operation.parent? = some n) :
    operation.makes = true := by
  cases operation <;> first | rfl | cases h

end Operation

/-- The families after an operation. -/
def apply (families : Families) : Operation → Families
  | .fresh => families.fresh.2
  | .copy n => (families.copy n).2
  | .derive n name => (families.derive n name).2
  | .record n name value => families.record n name value
  | .advance n key seed step => (families.advance n key seed step).2

/-! ## What an operation changes -/

section Steps

variable (families : Families)

theorem length_apply (operation : Operation) :
    (families.apply operation).members.length =
      families.members.length + if operation.makes then 1 else 0 := by
  cases operation with
  | record n name value => exact List.length_set
  | advance n key seed step => rfl
  | fresh | copy n | derive n name => exact List.length_append

theorem member_add_of_lt {n : Nat} (hn : n < families.members.length) (member : Member) :
    (families.add member).2.member n = families.member n := by
  simp only [Families.member, add, List.getD_eq_getElem?_getD, List.getElem?_append_left hn]

theorem member_add_length (member : Member) :
    (families.add member).2.member families.members.length = member := by
  simp only [Families.member, add, List.getD_eq_getElem?_getD, List.getElem?_concat_length,
    Option.getD_some]

theorem member_record {n m : Nat} (hn : n < families.members.length) (name : String)
    (value : Json) :
    (families.record m name value).member n =
      if m = n then ⟨(families.member n).family, (families.scope n).record name value⟩
      else families.member n := by
  simp only [record, setLedger, Families.member, List.getD_eq_getElem?_getD, List.getElem?_set]
  split
  · rename_i h
    subst h
    rw [if_pos hn]
    rfl
  · rfl

/-- A scope stays as it is unless a value is kept in it. -/
theorem member_apply_of_ne {n : Nat} (hn : n < families.members.length) {operation : Operation}
    (h : ∀ name value, operation ≠ .record n name value) :
    (families.apply operation).member n = families.member n := by
  cases operation with
  | fresh => exact member_add_of_lt _ hn _
  | copy m => exact member_add_of_lt _ hn _
  | derive m name => exact member_add_of_lt _ hn _
  | record m name value =>
    rw [apply, member_record families hn, if_neg]
    rintro rfl
    exact h name value rfl
  | advance m key seed step => rfl

/-- A scope stays in its family and in its place. -/
theorem member_apply {n : Nat} (hn : n < families.members.length) (operation : Operation) :
    ((families.apply operation).member n).family = (families.member n).family ∧
      ((families.apply operation).scope n).path = (families.scope n).path := by
  by_cases h : ∃ name value, operation = .record n name value
  · obtain ⟨name, value, rfl⟩ := h
    rw [scope, apply, member_record families hn, if_pos rfl]
    exact ⟨rfl, rfl⟩
  · rw [scope, member_apply_of_ne families hn fun name value heq => h ⟨name, value, heq⟩]
    exact ⟨rfl, rfl⟩

/-- A value that is kept is found. -/
theorem local?_apply_record {n : Nat} (hn : n < families.members.length) (name : String)
    (value : Json) :
    ((families.apply (.record n name value)).scope n).local? name = some value := by
  rw [scope, apply, member_record families hn, if_pos rfl]
  exact (Dictionary.get?_set _ _ _ _).trans (if_pos rfl)

/-- What a scope holds under a name stays unless a value is kept in it under the name. -/
theorem local?_apply_of_ne {n : Nat} (hn : n < families.members.length) {operation : Operation}
    {name : String} (h : ∀ value, operation ≠ .record n name value) :
    ((families.apply operation).scope n).local? name = (families.scope n).local? name := by
  by_cases hrecord : ∃ other value, operation = .record n other value
  · obtain ⟨other, value, rfl⟩ := hrecord
    have hne : other ≠ name := fun heq => h value (by rw [heq])
    rw [scope, apply, member_record families hn, if_pos rfl]
    exact (Dictionary.get?_set _ _ _ _).trans (if_neg hne)
  · rw [scope, member_apply_of_ne families hn fun other value heq => hrecord ⟨other, value, heq⟩]
    rfl

/-- The first scope of a family begins at the root. -/
theorem member_apply_fresh :
    (families.apply .fresh).member families.members.length =
      ⟨families.ledgers.length, Scope.root⟩ :=
  member_add_length _ _

/-- A derived scope is of the family of its parent, and holds what the parent holds. -/
theorem member_apply_parent {operation : Operation} {parent : Nat}
    (h : operation.parent? = some parent) :
    ((families.apply operation).member families.members.length).family =
        (families.member parent).family ∧
      ((families.apply operation).scope families.members.length).locals =
        (families.scope parent).locals := by
  cases operation with
  | copy n =>
    obtain rfl : n = parent := Option.some.inj h
    rw [scope, apply, copy, member_add_length]
    exact ⟨rfl, rfl⟩
  | derive n name =>
    obtain rfl : n = parent := Option.some.inj h
    rw [scope, apply, derive, member_add_length]
    exact ⟨rfl, rfl⟩
  | fresh | record n name value | advance n key seed step => cases h

/-- The ledger of a family. -/
def ledgerOf (family : Nat) : Ledger := families.ledgers.getD family Ledger.empty

theorem ledgerOf_setLedger {n family : Nat} (hfamily : family < families.ledgers.length)
    (ledger : Ledger) :
    (families.setLedger n ledger).ledgerOf family =
      if (families.member n).family = family then ledger else families.ledgerOf family := by
  simp only [setLedger, ledgerOf, List.getD_eq_getElem?_getD, List.getElem?_set]
  split
  · rename_i h
    rw [if_pos (h ▸ hfamily)]
    rfl
  · rfl

theorem ledgerOf_record {n family : Nat} (hfamily : family < families.ledgers.length)
    (name : String) (value : Json) :
    (families.record n name value).ledgerOf family =
      if (families.member n).family = family then
        (families.ledgerOf family).record ((families.scope n).key name) value
      else families.ledgerOf family := by
  have hset := families.ledgerOf_setLedger (n := n) hfamily
    ((families.ledger n).record ((families.scope n).key name) value)
  refine hset.trans ?_
  split
  · rename_i h
    rw [← h]
    rfl
  · rfl

/-- New families leave the ledgers of the others. -/
theorem ledgerOf_fresh {family : Nat} (hfamily : family < families.ledgers.length) :
    (families.apply .fresh).ledgerOf family = families.ledgerOf family := by
  simp only [apply, fresh, add, ledgerOf, List.getD_eq_getElem?_getD,
    List.getElem?_append_left hfamily]

/-- The ledger of a family stays as it is when nothing is done to the scopes of the family. -/
theorem ledgerOf_apply_of_ne {family : Nat} (hfamily : family < families.ledgers.length)
    {operation : Operation}
    (h : ∀ n, operation.subject? = some n → (families.member n).family ≠ family) :
    (families.apply operation).ledgerOf family = families.ledgerOf family := by
  cases operation with
  | fresh => exact families.ledgerOf_fresh hfamily
  | copy n | derive n name => rfl
  | record n name value =>
    exact (families.ledgerOf_record hfamily name value).trans (if_neg (h n rfl))
  | advance n key seed step =>
    exact (families.ledgerOf_setLedger hfamily _).trans (if_neg (h n rfl))

/-- A value that is kept is found under its full path. -/
theorem value?_apply_record {n : Nat}
    (hfamily : (families.member n).family < families.ledgers.length) (name : String)
    (value : Json) :
    ((families.apply (.record n name value)).ledgerOf (families.member n).family).value?
      ((families.scope n).key name) = some value := by
  rw [apply, ledgerOf_record families hfamily, if_pos rfl, Ledger.value?_record, if_pos rfl]

/-- What is under a full path stays unless a value of the family is kept there. -/
theorem value?_apply_of_ne {family : Nat} (hfamily : family < families.ledgers.length)
    {operation : Operation} {path : String}
    (h : ∀ n name value, operation = .record n name value → (families.member n).family = family →
      (families.scope n).key name ≠ path) :
    ((families.apply operation).ledgerOf family).value? path =
      (families.ledgerOf family).value? path := by
  cases operation with
  | fresh => rw [families.ledgerOf_fresh hfamily]
  | copy n | derive n name => rfl
  | record n name value =>
    rw [apply, ledgerOf_record families hfamily]
    split
    · rename_i hn
      rw [Ledger.value?_record, if_neg (h n name value rfl hn)]
    · rfl
  | advance n key seed step =>
    rw [apply, advance, ledgerOf_setLedger families hfamily]
    split
    · rename_i hn
      rw [← hn]
      rfl
    · rfl

/-- Each first scope of a family brings a ledger. -/
theorem length_ledgers_apply (operation : Operation) :
    (families.apply operation).ledgers.length =
      families.ledgers.length + if operation.isFresh then 1 else 0 := by
  cases operation with
  | fresh => exact List.length_append
  | copy n | derive n name => rfl
  | record n name value | advance n key seed step => exact List.length_set

/-- A family was there before, or is new. -/
theorem family_cases {operation : Operation} {family : Nat}
    (h : family < (families.apply operation).ledgers.length) :
    family < families.ledgers.length ∨
      operation = .fresh ∧ family = families.ledgers.length := by
  rw [length_ledgers_apply] at h
  cases operation with
  | fresh =>
    rcases Nat.lt_or_eq_of_le (Nat.lt_succ_iff.1 h) with hlt | heq
    · exact Or.inl hlt
    · exact Or.inr ⟨rfl, heq⟩
  | copy n | derive n name | record n name value | advance n key seed step => exact Or.inl h

/-- The ledger of a new family is empty. -/
theorem ledgerOf_apply_fresh :
    (families.apply .fresh).ledgerOf families.ledgers.length = Ledger.empty := by
  simp only [apply, fresh, add, ledgerOf, List.getD_eq_getElem?_getD, List.getElem?_concat_length,
    Option.getD_some]

end Steps

end Specimen.Families
