set_option autoImplicit false

/-!
# Locales

## Main definitions

* `Specimen.Locale` — the locales that have word lists.
* `Specimen.Locale.name`, `Specimen.Locale.ofName?` — a locale and its name.
* `Specimen.Locale.read?` — the same with a dash allowed in the name.
* `Specimen.Setting` — what generation depends on besides chance: the locale and the time.
-/

namespace Specimen

/-- The locales that have word lists. -/
inductive Locale where
  /-- English as in the United States. -/
  | enUS
  /-- Portuguese as in Brazil. -/
  | ptBR
  /-- Chinese as in China. -/
  | zhCN
  deriving DecidableEq, Repr, Inhabited

namespace Locale

/-- All locales in order. -/
def all : List Locale := [.enUS, .ptBR, .zhCN]

/-- The name of a locale. -/
def name : Locale → String
  | .enUS => "en_US"
  | .ptBR => "pt_BR"
  | .zhCN => "zh_CN"

/-- The locale of a name. -/
def ofName? (name : String) : Option Locale := all.find? fun locale => locale.name = name

/-- The locale of a name in which dashes may stand for underscores. -/
def read? (text : String) : Option Locale :=
  ofName? (String.ofList (text.toList.map fun c => if c = '-' then '_' else c))

/-- The wording of the failure to read a locale. -/
def unsupportedMessage (text : String) : String := "unsupported locale '" ++ text ++ "'"

end Locale

/-- What generation depends on besides chance. -/
structure Setting where
  /-- The locale of words, names and places. -/
  locale : Locale
  /-- The present time in seconds since the start of 1970. -/
  now : Int

end Specimen
