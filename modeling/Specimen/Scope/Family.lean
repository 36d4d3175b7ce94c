import Specimen.Scope.Basic

set_option autoImplicit false

/-!
# Families of scopes

Scopes that are derived from one another form a family and share a ledger. Here scopes of any number
of families are numbered in the order of their making; a change goes to one scope, or to the
ledger of its family.

## Main definitions

* `Specimen.Families` — scopes with the ledgers of their families.
* `Specimen.Families.fresh`, `Specimen.Families.copy`, `Specimen.Families.derive` — new scopes.
* `Specimen.Families.record`, `Specimen.Families.advance` — changes.
* `Specimen.Families.scope`, `Specimen.Families.ledger` — a scope, and the ledger of its family.
-/

namespace Specimen

/-- A scope and the number of its family. -/
structure Member where
  /-- The number of the family. -/
  family : Nat
  /-- The scope. -/
  scope : Scope
  deriving Inhabited

/-- Scopes with the ledgers of their families. -/
structure Families where
  /-- The scopes, by number. -/
  members : List Member
  /-- The ledgers, by number of the family. -/
  ledgers : List Ledger
  deriving Inhabited

namespace Families

/-- No families yet. -/
def empty : Families := ⟨[], []⟩

/-- The scope of a number. -/
def member (families : Families) (n : Nat) : Member := families.members.getD n ⟨0, Scope.root⟩

/-- The scope of a number. -/
def scope (families : Families) (n : Nat) : Scope := (families.member n).scope

/-- The ledger of the family of a scope. -/
def ledger (families : Families) (n : Nat) : Ledger :=
  families.ledgers.getD (families.member n).family Ledger.empty

/-- The families with a further scope, and the number of that scope. -/
def add (families : Families) (member : Member) : Nat × Families :=
  (families.members.length, { families with members := families.members ++ [member] })

/-- The families with the ledger of a scope's family replaced. -/
def setLedger (families : Families) (n : Nat) (ledger : Ledger) : Families :=
  { families with ledgers := families.ledgers.set (families.member n).family ledger }

/-- A scope of a new family. -/
def fresh (families : Families) : Nat × Families :=
  let grown : Families := { families with ledgers := families.ledgers ++ [Ledger.empty] }
  grown.add ⟨families.ledgers.length, Scope.root⟩

/-- A scope like another, of the same family. -/
def copy (families : Families) (n : Nat) : Nat × Families := families.add (families.member n)

/-- The scope of a property of another, of the same family. -/
def derive (families : Families) (n : Nat) (name : String) : Nat × Families :=
  families.add ⟨(families.member n).family, (families.scope n).child name⟩

/-- Keeps a value in a scope under a name, and in its family under the full path. -/
def record (families : Families) (n : Nat) (name : String) (value : Json) : Families :=
  let scope := families.scope n
  let kept := families.setLedger n ((families.ledger n).record (scope.key name) value)
  { kept with members := kept.members.set n ⟨(families.member n).family, scope.record name value⟩ }

/-- Reads a counter of a scope's family and moves it on. -/
def advance (families : Families) (n : Nat) (key : String) (seed step : Int) : Int × Families :=
  let (current, ledger) := (families.ledger n).advance key seed step
  (current, families.setLedger n ledger)

end Families

end Specimen
