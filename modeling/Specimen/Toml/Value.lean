import Specimen.Dictionary

set_option autoImplicit false

/-!
# Values of TOML

The values of a document are integers, texts, lists and tables. Of the lists only the empty one is
needed. A table remembers what made it, since that decides whether entries may be added to it later:
a table with braces is complete, a table with a header cannot be entered by a name with dots, and a
table that came up on the way to another one may still get a header.

## Main definitions

* `Specimen.Toml.Origin`, `Specimen.Toml.Value` — values.
* `Specimen.Toml.Value.modify?` — a value with the table changed that a path leads to.
* `Specimen.Toml.Value.addEntry?`, `Specimen.Toml.Value.addTable?` — a table with one more entry, or
  with a table that has a header.
-/

namespace Specimen.Toml

/-- What made a table. -/
inductive Origin where
  /-- A header of its own, or the document. -/
  | header
  /-- The header of a table in it. -/
  | parent
  /-- A name with dots. -/
  | dotted
  /-- Braces. -/
  | braces
  deriving DecidableEq, Repr

/-- A value of an entry. -/
inductive Value where
  /-- An integer. -/
  | integer (value : Int)
  /-- A text. -/
  | text (value : String)
  /-- A list without members. -/
  | emptyList
  /-- A table. -/
  | table (origin : Origin) (entries : List (String × Value))

namespace Value

/-- The table of a document without entries. -/
def root : Value := .table .header []

/-- A list or a table without members. -/
def isEmpty : Value → Bool
  | .emptyList => true
  | .table _ [] => true
  | _ => false

/-- The value is a table that a path of such an origin may enter. -/
def admits (origin : Origin) : Value → Bool
  | .table .header _ => origin != .dotted
  | .table .parent _ => true
  | .table .dotted _ => true
  | _ => false

/-- A value with the table changed that a path leads to. Tables that are missing on the way are
made; their origin is that of the path. -/
def modify? (origin : Origin) (change : Value → Option Value) : List String → Value → Option Value
  | [], value => change value
  | name :: path, .table own entries => do
    let inner := (Dictionary.get? entries name).getD (.table origin [])
    if inner.admits origin then
      some (.table own (Dictionary.set entries name (← modify? origin change path inner)))
    else none
  | _ :: _, _ => none

/-- A table with one more entry; no name may occur twice. Behind a path of a name with dots, the
table has to be made by such a name. -/
def addEntry? (behind : Bool) (name : String) (value : Value) : Value → Option Value
  | .table own entries =>
    if Dictionary.contains entries name || (behind && own != .dotted) then none
    else some (.table own (Dictionary.set entries name value))
  | _ => none

/-- A table with a table in it that has a header. One that came up on the way to another is taken
over. -/
def addTable? (name : String) : Value → Option Value
  | .table own entries =>
    match Dictionary.get? entries name with
    | none => some (.table own (Dictionary.set entries name (.table .header [])))
    | some (.table .parent inner) =>
      some (.table own (Dictionary.set entries name (.table .header inner)))
    | some _ => none
  | _ => none

/-- The entries of a table. -/
def entries : Value → Dictionary Value
  | .table _ entries => entries
  | _ => []

end Value

end Specimen.Toml
