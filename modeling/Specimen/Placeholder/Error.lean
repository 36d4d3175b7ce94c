import Specimen.Json.Printer
import Specimen.Rule.Basic
import Specimen.Random.Source

set_option autoImplicit false

/-!
# Failures of placeholders

## Main definitions

* `Specimen.ArgumentFault` — what is wrong with an argument or a result.
* `Specimen.ResolutionError` — why a placeholder has no value.
* `Specimen.ResolutionError.message` — the wording of such a failure.
* `Specimen.Attempt` — a step that takes random words and may fail.
-/

namespace Specimen

/-- What is wrong with an argument or a result. -/
inductive ArgumentFault where
  /-- There is no argument at a position. -/
  | missing (position : Nat)
  /-- The argument is no integer. -/
  | notInteger (value : Json)
  /-- A length or count is above the limit. -/
  | aboveLimit (count : Int)
  /-- A length or count is below zero. -/
  | belowZero (count : Int)
  /-- The argument is no number. -/
  | notNumber (value : Json)
  /-- The argument is no text. -/
  | notText (value : Json)
  /-- The argument is no value at all where a text is wanted. -/
  | absent
  /-- There is no character to choose. -/
  | emptyPool
  /-- The step of a progression is not positive. -/
  | stepNotPositive
  /-- A progression has too many elements. -/
  | tooManyElements
  /-- A date format is invalid. -/
  | badFormat
  /-- The result is not finite. -/
  | notFinite
  /-- There is nothing to pick from. -/
  | nothingToPick
  /-- A text names no kind of phone number. -/
  | unknownPhoneKind (text : String)
  /-- A fault that a function words itself. -/
  | other (wording : String)

/-- The wording of a fault. -/
def ArgumentFault.message : ArgumentFault → String
  | .missing position => "missing argument " ++ toString position
  | .notInteger value => "expected integer, got " ++ value.render
  | .aboveLimit count => toString count ++ " exceeds the limit of " ++ toString maxRepeat
  | .belowZero count => "expected non-negative integer, got " ++ toString count
  | .notNumber value => "expected number, got " ++ value.render
  | .notText value => "expected string, got " ++ value.render
  | .absent => "expected text, got null"
  | .emptyPool => "empty pool"
  | .stepNotPositive => "step must be positive"
  | .tooManyElements => "more than " ++ toString maxRepeat ++ " elements"
  | .badFormat => "unsupported format"
  | .notFinite => "non-finite result"
  | .nothingToPick => "nothing to pick from"
  | .unknownPhoneKind text => "unknown phone type '" ++ text ++ "'"
  | .other wording => wording

/-- Why a placeholder has no value. -/
inductive ResolutionError where
  /-- Nothing has the name. -/
  | unknown (name : String)
  /-- Nothing of the name takes so many arguments. -/
  | arity (name : String) (count : Nat)
  /-- An argument or the result is at fault. -/
  | argument (name : String) (fault : ArgumentFault)
  /-- An extension has failed. -/
  | failed (name : String) (wording : String)

/-- The wording of a failure. -/
def ResolutionError.message : ResolutionError → String
  | .unknown name => "unknown placeholder '" ++ name ++ "'"
  | .arity name count =>
    "placeholder '" ++ name ++ "' has no overload taking " ++ toString count ++ " argument(s)"
  | .argument name fault => "placeholder '" ++ name ++ "': " ++ fault.message
  | .failed name wording => "extension '" ++ name ++ "' failed: " ++ wording

/-- A step that takes random words and may fail; what it has taken before it fails stays taken. -/
abbrev Attempt := ExceptT ResolutionError Draw

end Specimen
