import Specimen.Placeholder.Resolution
import Specimen.Text.Quoted

set_option autoImplicit false

/-!
# Descriptions of engines

An engine and its parts are described in a line each; what cannot be described is left open by two
points.

## Main definitions

* `Specimen.Setting.describe`, `Specimen.Extensions.describe`, `Specimen.Engine.describe` — the
  descriptions of an engine and its parts.
* `Specimen.Signature.describe` — the description of a function.
-/

namespace Specimen

/-- The short mark of a locale. -/
def Locale.mark : Locale → String
  | .enUS => "EnUs"
  | .ptBR => "PtBr"
  | .zhCN => "ZhCn"

/-- The description of the source of chance in a setting. -/
def Setting.describe (setting : Setting) : String :=
  Text.describeRecord "MockRandom" ["locale: " ++ setting.locale.mark, ".."]

/-- The description of extensions. -/
def Extensions.describe (extensions : Extensions) : String :=
  Text.describeRecord "ExtensionRegistry"
    ["names: " ++ Text.describeList (extensions.names.map Text.describe)]

/-- The description of an engine. -/
def Engine.describe (engine : Engine) : String :=
  Text.describeRecord "MockEngine"
    ["random: " ++ engine.setting.describe, "extensions: " ++ engine.extensions.describe,
      "coercers: " ++ toString engine.coercers.length, ".."]

/-- The description of an arity. -/
def Arity.describe : Arity → String
  | .exactly count => "Exact(" ++ toString count ++ ")"
  | .atLeast count => "AtLeast(" ++ toString count ++ ")"

/-- The description of a function. -/
def Signature.describe (signature : Signature) : String :=
  Text.describeRecord "Signature"
    ["name: " ++ Text.describe signature.name, "arity: " ++ signature.arity.describe]

end Specimen
