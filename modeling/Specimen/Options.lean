import Specimen.Json.Basic
import Specimen.Locale
import Specimen.Toml.Document

set_option autoImplicit false

/-!
# Options

The options of generation are the seed of chance and the locale. They can be read from a document
of settings, in which both may be missing and nothing else may stand.

## Main definitions

* `Specimen.Options` — a seed and a locale.
* `Specimen.Options.read?` — the options that a document sets.
* `Specimen.Options.toJson` — options as a value.
-/

namespace Specimen

/-- The seed of chance, which may be left open, and the locale. -/
structure Options where
  /-- The seed. -/
  seed : Option Nat
  /-- The locale of words, names and places. -/
  locale : Locale
  deriving DecidableEq, Repr

namespace Options

/-- An open seed and the first locale. -/
def default : Options := ⟨none, .enUS⟩

/-- The name that a value gives: a text, or the only name of a table that says nothing about it. -/
def nameOf? : Toml.Value → Option String
  | .text name => some name
  | .table _ [(name, value)] => if value.isEmpty then some name else none
  | _ => none

/-- The seed that a value gives: an integer that is not negative. -/
def seedOf? : Toml.Value → Option Nat
  | .integer n => if 0 ≤ n then some n.toNat else none
  | _ => none

/-- The options with one setting changed, the seed or the locale. -/
def change? (options : Options) (name : String) (value : Toml.Value) : Option Options :=
  if name = "seed" then (seedOf? value).map fun seed => { options with seed := some seed }
  else if name = "locale" then
    ((nameOf? value).bind Locale.ofName?).map fun locale => { options with locale := locale }
  else none

/-- The options that entries set. -/
def ofEntries? (entries : Dictionary Toml.Value) : Option Options :=
  entries.foldlM (fun options (name, value) => options.change? name value) default

/-- The options that a document sets. -/
def read? (text : String) : Option Options := (Toml.read? text).bind ofEntries?

/-- The options as an object. -/
def toJson (options : Options) : Json :=
  .obj [
    ("seed", match options.seed with
      | some seed => .ofInt seed
      | none => .null),
    ("locale", .str options.locale.name)]

end Options

end Specimen
