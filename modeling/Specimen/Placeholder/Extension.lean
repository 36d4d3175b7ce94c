import Specimen.Placeholder.Error
import Specimen.Dictionary
import Specimen.Text.Case

set_option autoImplicit false

/-!
# Extensions

Extensions are placeholders that come with an application. A name in small letters can have a plain
form, which takes no arguments, and a form with arguments; a later form replaces an earlier one of
its sort.

## Main definitions

* `Specimen.Extensions` — the plain forms and the forms with arguments.
* `Specimen.Extensions.register`, `Specimen.Extensions.registerWith`, `Specimen.Extensions.remove`,
  `Specimen.Extensions.unregister`, `Specimen.Extensions.clear` — changes.
* `Specimen.Extensions.call` — the value of an extension.
* `Specimen.Extensions.names` — the names in ascending order.
-/

namespace Specimen

/-- A form without arguments: its value, or the wording of its failure. -/
abbrev PlainForm := Except String Json

/-- A form with arguments. -/
abbrev ArgumentForm := List Json → Except String Json

/-- The forms of extensions, by name in small letters. -/
structure Extensions where
  /-- The plain forms. -/
  plain : Dictionary PlainForm
  /-- The forms with arguments. -/
  withArguments : Dictionary ArgumentForm

namespace Extensions

/-- No extensions. -/
def empty : Extensions := ⟨[], []⟩

/-- Sets the plain form of a name. -/
def register (extensions : Extensions) (name : String) (form : PlainForm) : Extensions :=
  { extensions with plain := extensions.plain.set (Text.lower name) form }

/-- Sets the form with arguments of a name. -/
def registerWith (extensions : Extensions) (name : String) (form : ArgumentForm) : Extensions :=
  { extensions with withArguments := extensions.withArguments.set (Text.lower name) form }

/-- The name has a form. -/
def contains (extensions : Extensions) (name : String) : Bool :=
  extensions.plain.contains (Text.lower name) || extensions.withArguments.contains (Text.lower name)

/-- Takes both forms of a name out. -/
def remove (extensions : Extensions) (name : String) : Extensions :=
  ⟨extensions.plain.erase (Text.lower name), extensions.withArguments.erase (Text.lower name)⟩

/-- Takes both forms of a name out, and tells whether there was one. -/
def unregister (extensions : Extensions) (name : String) : Bool × Extensions :=
  let key := Text.lower name
  ((extensions.plain.get? key).isSome || (extensions.withArguments.get? key).isSome,
    extensions.remove name)

/-- Takes everything out. -/
def clear (_ : Extensions) : Extensions := empty

/-- The result of a form under the name it was called by. -/
def outcome (name : String) : Except String Json → Except ResolutionError Json
  | .ok value => .ok value
  | .error wording => .error (.failed name wording)

/-- The value of an extension. Without arguments the plain form is preferred and the form with
arguments takes none; with arguments there is only the latter. -/
def call (extensions : Extensions) (name : String) (arguments : List Json) :
    Except ResolutionError Json :=
  let key := Text.lower name
  match extensions.plain.get? key, extensions.withArguments.get? key with
  | none, none => .error (.unknown name)
  | some form, none =>
    if arguments.isEmpty then outcome name form else .error (.arity name arguments.length)
  | none, some form => outcome name (form arguments)
  | some plain, some form =>
    if arguments.isEmpty then outcome name plain else outcome name (form arguments)

/-- The names with a form, each once, in ascending order. -/
def names (extensions : Extensions) : List String :=
  let added := extensions.withArguments.names.filter fun name => !extensions.plain.contains name
  (extensions.plain.names ++ added).mergeSort (· ≤ ·)

end Extensions

end Specimen
