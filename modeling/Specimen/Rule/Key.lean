import Specimen.Rule.Reader

set_option autoImplicit false

/-!
# Keys with rules

A key of a template is a name, perhaps followed by a bar and a rule text. The bar that counts is
the first one with something on both sides; without one the whole key is the name.

## Main definitions

* `Specimen.Key.split?` — the name and the rule text of a key.
* `Specimen.Key.name` — the name of a key.
* `Specimen.Key.read` — the name and the rule of a key for a kind of value.
* `Specimen.Key.rule?` — the rule of a key for a kind of value.
-/

namespace Specimen.Key

/-- The name and the rule text of a key, as characters. A bar in front belongs to the name. -/
def splitChars? : List Char → Option (List Char × List Char)
  | [] => none
  | first :: rest =>
    match Text.cut? '|' rest with
    | some (_, []) => none
    | some (before, rule) => some (first :: before, rule)
    | none => none

/-- The name and the rule text of a key; nothing when no bar has something on both sides. -/
def split? (key : String) : Option (String × String) :=
  (splitChars? key.toList).map fun (name, rule) => (String.ofList name, String.ofList rule)

/-- The name under which the value of a key appears. -/
def name (key : String) : String :=
  match split? key with
  | some (name, _) => name
  | none => key

/-- What a key says about a value of some kind. -/
structure Reading where
  /-- The name under which the value appears. -/
  name : String
  /-- The rule for the value, when there is one. -/
  rule? : Option Rule
  deriving DecidableEq, Repr

/-- Reads a key for a kind of value. A rule text that is no rule for the kind is left out. -/
def read (key : String) (kind : Kind) : Reading :=
  match split? key with
  | some (name, rule) => ⟨name, Rule.read? rule.toList kind⟩
  | none => ⟨key, none⟩

/-- The rule of a key, when it has a rule text that is a rule for the kind. -/
def rule? (key : String) (kind : Kind) : Option Rule := (read key kind).rule?

/-- A key has the same name for all kinds of values. -/
@[simp]
theorem name_read (key : String) (kind : Kind) : (read key kind).name = name key := by
  unfold read name
  split <;> rfl

@[simp]
theorem rule?_read (key : String) (kind : Kind) : (read key kind).rule? = rule? key kind := rfl

theorem rule?_eq (key : String) (kind : Kind) :
    rule? key kind =
      match split? key with
      | some (_, rule) => Rule.read? rule.toList kind
      | none => none := by
  unfold rule? read
  split <;> rfl

end Specimen.Key
