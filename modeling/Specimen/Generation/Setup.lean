import Specimen.Generation.Basic
import Specimen.Json.Reader
import Specimen.Options
import Specimen.Placeholder.Builtin
import Specimen.Random.ChaCha

set_option autoImplicit false

/-!
# Setting generation up

An engine made from options has the built-in placeholders, no extensions, and knows the codes of
phone numbers. Generation can also go from text to text: the template is read, and the generated
value is written in compact form.

## Main definitions

* `Specimen.Engine.standard`, `Specimen.Engine.ofOptions` — engines with the built-in placeholders.
* `Specimen.Options.source` — the random source that options ask for.
* `Specimen.Engine.generateText` — generation from text to text.
-/

namespace Specimen

/-- The engine with the built-in placeholders and nothing else. -/
def Engine.standard (setting : Setting) : Engine :=
  ⟨setting, Registry.default, Extensions.empty, [Coercer.phoneKinds]⟩

/-- The engine that options ask for at a point in time. -/
def Engine.ofOptions (options : Options) (now : Int) : Engine :=
  Engine.standard ⟨options.locale, now⟩

/-- The random source of options; an open seed is replaced by another. -/
def Options.source (options : Options) (otherwise : Nat) : Source :=
  Source.seeded (UInt64.ofNat (options.seed.getD otherwise))

/-- The text generated from the text of a template. -/
def Engine.generateText (engine : Engine) (text : String) :
    Draw (Except Json.TemplateError String) :=
  match Json.readTemplate? text with
  | .error refusal => pure (.error refusal)
  | .ok template => (fun value => .ok value.render) <$> engine.generate template

/-- The wording of the refusal to generate from a text. -/
def Json.TemplateError.refusal (error : Json.TemplateError) : String :=
  "template error: " ++ error.message

end Specimen
