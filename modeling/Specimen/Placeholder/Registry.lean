import Specimen.Placeholder.Error
import Specimen.Dictionary
import Specimen.Locale
import Specimen.Text.Case

set_option autoImplicit false

/-!
# The registry of placeholders

A registry holds, for each name in small letters, the functions registered under it. A call tries
those that take the number of arguments, in the order of registration, until one succeeds.

## Main definitions

* `Specimen.Arity` — how many arguments a function takes.
* `Specimen.Signature` — a function under a name.
* `Specimen.Registry` — the functions by name.
* `Specimen.Registry.call` — the value of a placeholder.
* `Specimen.Registry.catalogue` — all names with the numbers of arguments they take.
-/

namespace Specimen

/-- How many arguments a function takes. -/
inductive Arity where
  /-- Exactly so many. -/
  | exactly (count : Nat)
  /-- So many or more. -/
  | atLeast (count : Nat)
  deriving DecidableEq, Repr

namespace Arity

/-- A number of arguments is fine. -/
def accepts : Arity → Nat → Bool
  | .exactly expected, count => count == expected
  | .atLeast least, count => least ≤ count

/-- The short text of an arity. -/
def text : Arity → String
  | .exactly count => toString count
  | .atLeast count => toString count ++ "+"

end Arity

/-- A function under a name. -/
structure Signature where
  /-- The name, in any case. -/
  name : String
  /-- How many arguments the function takes. -/
  arity : Arity
  /-- The function. -/
  run : Setting → List Json → Attempt Json

/-- Functions by name in small letters, in the order of registration. -/
structure Registry where
  /-- The functions of each name. -/
  entries : Dictionary (List Signature)

namespace Registry

/-- A registry without functions. -/
def empty : Registry := ⟨[]⟩

/-- Adds a function behind those of its name. -/
def register (registry : Registry) (signature : Signature) : Registry :=
  let key := Text.lower signature.name
  ⟨registry.entries.set key ((registry.entries.get? key).getD [] ++ [signature])⟩

/-- Adds functions from left to right. -/
def registerAll (registry : Registry) (signatures : List Signature) : Registry :=
  signatures.foldl register registry

/-- The name has functions. -/
def contains (registry : Registry) (name : String) : Bool :=
  registry.entries.contains (Text.lower name)

/-- The functions of a name. -/
def signatures (registry : Registry) (name : String) : List Signature :=
  (registry.entries.get? (Text.lower name)).getD []

/-- The value of the first function that succeeds; when all fail, the last failure. -/
def firstSuccess (setting : Setting) (arguments : List Json) :
    List Signature → ResolutionError → Attempt Json
  | [], failure => throw failure
  | signature :: others, _ => fun source =>
    match signature.run setting arguments source with
    | (.ok value, source) => (.ok value, source)
    | (.error failure, source) => firstSuccess setting arguments others failure source

/-- The value of a placeholder with arguments. -/
def call (registry : Registry) (setting : Setting) (name : String) (arguments : List Json) :
    Attempt Json :=
  match registry.entries.get? (Text.lower name) with
  | none => throw (.unknown name)
  | some signatures =>
    firstSuccess setting arguments
      (signatures.filter fun signature => signature.arity.accepts arguments.length)
      (.arity name arguments.length)

/-- When one function of a name takes so many arguments, a call is a call of that function. -/
theorem call_of_filter {registry : Registry} {name : String} {arguments : List Json}
    (signature : Signature)
    (h : (registry.signatures name).filter (fun s => s.arity.accepts arguments.length) =
      [signature]) (setting : Setting) :
    registry.call setting name arguments = signature.run setting arguments := by
  unfold call
  unfold signatures at h
  cases hentry : registry.entries.get? (Text.lower name) with
  | none => simp [hentry] at h
  | some found =>
    simp only [hentry, Option.getD_some] at h
    simp only [h]
    funext source
    unfold firstSuccess
    split <;> rename_i hrun
    · exact hrun.symm
    · exact hrun.symm

/-- All names in ascending order, each with the arities of its functions. -/
def catalogue (registry : Registry) : List (String × List Arity) :=
  let entries := registry.entries.map fun (name, signatures) => (name, signatures.map (·.arity))
  entries.mergeSort fun a b => a.1 ≤ b.1

end Registry

end Specimen
