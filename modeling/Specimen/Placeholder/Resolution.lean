import Specimen.Placeholder.Argument
import Specimen.Placeholder.Extension
import Specimen.Placeholder.Registry
import Specimen.Placeholder.Token

set_option autoImplicit false

/-!
# Resolving tokens

A token without arguments means first of all an earlier value of its name. After that come the
built-in functions, and extensions last: an extension is asked for a name of the registry only when
the functions there have failed. A text that is a single token becomes the value of the token; in
any other text tokens are replaced by their values as text. A token without value stays as written.

## Main definitions

* `Specimen.Engine` — everything that generation is set up with.
* `Specimen.Engine.lookUp` — the value of a name with arguments.
* `Specimen.Engine.resolve` — the value of a text.
-/

namespace Specimen

/-- Everything that generation is set up with, chance apart. -/
structure Engine where
  /-- The locale and the time. -/
  setting : Setting
  /-- The functions of placeholders. -/
  registry : Registry
  /-- The extensions. -/
  extensions : Extensions
  /-- The coercers of arguments, in the order in which they are asked. -/
  coercers : List Coercer

/-- The earlier value of a reference. -/
abbrev References := String → Option Json

namespace Engine

/-- The value that the registry or the extensions give to a name with arguments. -/
def dispatch (engine : Engine) (name : String) (arguments : List Json) : Attempt Json :=
  fun source =>
    if engine.registry.contains name then
      match engine.registry.call engine.setting name arguments source with
      | (.ok value, source) => (.ok value, source)
      | (.error failure, source) =>
        if engine.extensions.contains name then (engine.extensions.call name arguments, source)
        else (.error failure, source)
    else (engine.extensions.call name arguments, source)

/-- The value of a name with arguments. -/
def lookUp (engine : Engine) (references : References) (name : String) (arguments : List Json) :
    Attempt Json :=
  match if arguments.isEmpty then references name else none with
  | some value => pure value
  | none => engine.dispatch name arguments

/-- The value of a token. -/
def resolveToken (engine : Engine) (references : References) (token : Token) : Attempt Json :=
  engine.lookUp references (String.ofList token.name)
    (Argument.readList engine.coercers (token.arguments.getD []))

/-- What takes the place of a segment. -/
def resolveSegment (engine : Engine) (references : References) : Segment → Draw (List Char)
  | .plain c => pure [c]
  | .token token => do
    match ← (engine.resolveToken references token).run with
    | .ok value => pure value.asText.toList
    | .error _ => pure token.text

/-- The text with its tokens replaced. -/
def resolveSegments (engine : Engine) (references : References) (text : List Char) :
    Draw (List Char) := do
  let parts ← Draw.forEach (engine.resolveSegment references) (segments text)
  pure parts.flatten

/-- The value of a text. -/
def resolve (engine : Engine) (references : References) (text : List Char) : Draw Json :=
  match Token.whole? text with
  | some token => do
    match ← (engine.resolveToken references token).run with
    | .ok value => pure value
    | .error _ => pure (.str (String.ofList text))
  | none => do
    let resolved ← engine.resolveSegments references text
    pure (.str (String.ofList resolved))

end Engine

end Specimen
