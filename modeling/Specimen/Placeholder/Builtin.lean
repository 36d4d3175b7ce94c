import Specimen.Placeholder.Registry
import Specimen.Progression
import Specimen.Random.Word
import Specimen.Random.Web
import Specimen.Random.Phone
import Specimen.Random.Time

set_option autoImplicit false

/-!
# The built-in placeholders

Every built-in placeholder is a function registered under its name, one for each number of
arguments it takes.

## Main definitions

* `Specimen.Builtin.intArgument`, `Specimen.Builtin.countArgument`,
  `Specimen.Builtin.floatArgument`, `Specimen.Builtin.textArgument`,
  `Specimen.Builtin.renderedArgument` — typed arguments.
* `Specimen.Builtin.signatures` — all built-in functions.
* `Specimen.Registry.default` — the registry that holds them.
-/

namespace Specimen

namespace Builtin

/-! ## Typed arguments -/

/-- A failure of the function `name`. -/
def fault {α : Type} (name : String) (fault : ArgumentFault) : Except ResolutionError α :=
  .error (.argument name fault)

/-- The argument at a position. -/
def argument (name : String) (arguments : List Json) (position : Nat) :
    Except ResolutionError Json :=
  match arguments[position]? with
  | some value => .ok value
  | none => fault name (.missing position)

/-- An integer, or a number without fraction cut to the range of integers. -/
def intArgument (name : String) (arguments : List Json) (position : Nat) :
    Except ResolutionError Int := do
  match ← argument name arguments position with
  | .num number =>
    match number.toInt? <|> number.toWhole? with
    | some n => .ok n
    | none => fault name (.notInteger (.num number))
  | value => fault name (.notInteger value)

/-- An integer in range is read as it is. -/
theorem intArgument_eq_ok {name : String} {arguments : List Json} {position : Nat} {n : Int}
    (h : arguments[position]? = some (.ofInt n)) (hn : Integer.InRange n) :
    intArgument name arguments position = .ok n := by
  have hargument : argument name arguments position = .ok (.ofInt n) := by
    rw [argument, h]
  have hread : (Number.int n).toInt? = some n := Integer.check?_eq_some_iff.2 ⟨hn, rfl⟩
  rw [intArgument, hargument]
  change (match (Number.int n).toInt? <|> (Number.int n).toWhole? with
    | some n => Except.ok n
    | none => _) = _
  rw [hread]
  rfl

/-- A length or a number of elements, within the limit. -/
def countArgument (name : String) (arguments : List Json) (position : Nat) :
    Except ResolutionError Nat := do
  let n ← intArgument name arguments position
  if maxRepeat < n then fault name (.aboveLimit n)
  else if n < 0 then fault name (.belowZero n)
  else .ok n.toNat

/-- A number as a floating-point number. -/
def floatArgument (name : String) (arguments : List Json) (position : Nat) :
    Except ResolutionError Float := do
  match ← argument name arguments position with
  | .num number => .ok number.toFloat
  | value => fault name (.notNumber value)

/-- A text. -/
def textArgument (name : String) (arguments : List Json) (position : Nat) :
    Except ResolutionError String := do
  match ← argument name arguments position with
  | .str text => .ok text
  | value => fault name (.notText value)

/-- Any value as a text, except no value. -/
def renderedArgument (name : String) (arguments : List Json) (position : Nat) :
    Except ResolutionError String := do
  match ← argument name arguments position with
  | .null => fault name .absent
  | value => .ok value.asText

/-! ## Results -/

/-- The result of a step as a text. -/
def textOf (step : Draw String) : Attempt Json := Json.str <$> (step : Attempt String)

/-- The result of a step as a number. -/
def intOf (step : Draw Int) : Attempt Json := Json.ofInt <$> (step : Attempt Int)

/-- The result of a step as a truth value. -/
def boolOf (step : Draw Bool) : Attempt Json := Json.bool <$> (step : Attempt Bool)

/-- The result of a step as a number, when it is finite. -/
def floatOf (name : String) (step : Draw Float) : Attempt Json := do
  let x ← (step : Attempt Float)
  match Json.ofFloat? x with
  | some value => pure value
  | none => throw (.argument name .notFinite)

/-- The result of a step that formats a moment, when the format is valid. -/
def momentOf (name : String) (step : Draw (Option String)) : Attempt Json := do
  match ← (step : Attempt (Option String)) with
  | some text => pure (.str text)
  | none => throw (.argument name .badFormat)

/-- A result, or a failure, that takes no random words. -/
def ofExcept {α : Type} (result : Except ResolutionError α) : Attempt α := ExceptT.mk (pure result)

/-- A character of a pool as a text. -/
def characterOf (name : String) (pool : List Char) : Attempt Json := do
  match ← (Draw.character? pool : Attempt (Option Char)) with
  | some c => pure (.str (String.singleton c))
  | none => throw (.argument name .emptyPool)

/-- The terms of a progression with a positive step, within the limit. -/
def progressionOf (name : String) (start stop step : Int) : Except ResolutionError Json :=
  if maxRepeat ≤ (stop - start).tdiv step then fault name .tooManyElements
  else .ok (.arr ((progression start stop step).map Json.ofInt))

/-! ## Functions without and with arguments -/

/-- A function that takes no arguments. -/
def plain (name : String) (step : Setting → Attempt Json) : Signature :=
  ⟨name, .exactly 0, fun setting _ => step setting⟩

/-- A function of one argument. -/
def one {α : Type} (name : String)
    (first : String → List Json → Nat → Except ResolutionError α)
    (step : Setting → α → Attempt Json) : Signature :=
  ⟨name, .exactly 1, fun setting arguments => do
    let a ← ofExcept (first name arguments 0)
    step setting a⟩

/-- A function of two arguments, which are checked from left to right. -/
def two {α β : Type} (name : String)
    (first : String → List Json → Nat → Except ResolutionError α)
    (second : String → List Json → Nat → Except ResolutionError β)
    (step : Setting → α → β → Attempt Json) : Signature :=
  ⟨name, .exactly 2, fun setting arguments => do
    let a ← ofExcept (first name arguments 0)
    let b ← ofExcept (second name arguments 1)
    step setting a b⟩

/-- A function without arguments that draws a text. -/
def words (name : String) (step : Setting → Draw String) : Signature :=
  plain name fun setting => textOf (step setting)

/-! ## The functions -/

/-- The least integer that the placeholder for integers draws by default. -/
def intLeast : Int := -2147483648

/-- The greatest integer that the placeholders for integers draw by default. -/
def intGreatest : Int := 2147483647

/-- The bound of floating-point numbers by default. -/
def floatBound : Float := 9007199254740992.0

/-- Functions for truth values and numbers. -/
def numberSignatures : List Signature := [
  plain "boolean" fun _ => boolOf Draw.boolean,
  one "boolean" floatArgument fun _ p => boolOf (Draw.chance p),
  plain "natural" fun _ => intOf (Draw.natural 0 intGreatest),
  one "natural" intArgument fun _ a => intOf (Draw.natural a intGreatest),
  two "natural" intArgument intArgument fun _ a b => intOf (Draw.natural a b),
  plain "integer" fun _ => intOf (Draw.integer intLeast intGreatest),
  one "integer" intArgument fun _ a => intOf (Draw.integer a intGreatest),
  two "integer" intArgument intArgument fun _ a b => intOf (Draw.integer a b),
  plain "float" fun _ => floatOf "float" (Draw.float (-floatBound) floatBound),
  one "float" floatArgument fun _ a => floatOf "float" (Draw.float a floatBound),
  two "float" floatArgument floatArgument fun _ a b => floatOf "float" (Draw.float a b)]

/-- Functions for characters and texts of random characters. -/
def textSignatures : List Signature := [
  plain "character" fun _ => characterOf "character" Pool.alphanumeric,
  one "character" textArgument fun _ pool => characterOf "character" pool.toList,
  words "string" fun _ => String.ofList <$> Draw.text 10 Pool.alphanumeric,
  one "string" countArgument fun _ n =>
    textOf (String.ofList <$> Draw.text n Pool.alphanumeric),
  two "string" countArgument textArgument fun _ n pool =>
    if pool.isEmpty then throw (.argument "string" .emptyPool)
    else textOf (String.ofList <$> Draw.text n pool.toList)]

/-- Functions for progressions. -/
def rangeSignatures : List Signature := [
  two "range" intArgument intArgument fun _ start stop =>
    ofExcept (progressionOf "range" start stop 1),
  ⟨"range", .exactly 3, fun _ arguments => ofExcept do
    let start ← intArgument "range" arguments 0
    let stop ← intArgument "range" arguments 1
    let step ← intArgument "range" arguments 2
    if step ≤ 0 then fault "range" .stepNotPositive else progressionOf "range" start stop step⟩]

/-- The date format by default. -/
def dateFormat : String := "yyyy-MM-dd"

/-- The time format by default. -/
def timeFormat : String := "HH:mm:ss"

/-- The format of date and time by default. -/
def dateTimeFormat : String := "yyyy-MM-dd HH:mm:ss"

/-- Functions for dates and times. -/
def timeSignatures : List Signature := [
  plain "date" fun setting => momentOf "date" (Draw.dateTime? setting dateFormat),
  one "date" textArgument fun setting format => momentOf "date" (Draw.dateTime? setting format),
  plain "time" fun _ => momentOf "time" (Draw.time? timeFormat),
  one "time" textArgument fun _ format => momentOf "time" (Draw.time? format),
  plain "datetime" fun setting => momentOf "datetime" (Draw.dateTime? setting dateTimeFormat),
  one "datetime" textArgument fun setting format =>
    momentOf "datetime" (Draw.dateTime? setting format),
  plain "now" fun setting => momentOf "now" (pure (setting.now? dateTimeFormat)),
  one "now" textArgument fun setting format => momentOf "now" (pure (setting.now? format))]

/-- Functions for filler text. -/
def fillerSignatures : List Signature := [
  words "word" fun _ => Draw.fillerWord,
  two "word" countArgument countArgument fun _ a b => textOf (Draw.wordBetween a b),
  words "sentence" fun _ => Draw.sentence 12 18,
  two "sentence" countArgument countArgument fun _ a b => textOf (Draw.sentence a b),
  words "paragraph" fun _ => Draw.paragraph 3 7,
  two "paragraph" countArgument countArgument fun _ a b => textOf (Draw.paragraph a b),
  words "title" fun _ => Draw.title 3 7,
  two "title" countArgument countArgument fun _ a b => textOf (Draw.title a b)]

/-- Functions for people and addresses. -/
def peopleSignatures : List Signature := [
  words "first" fun setting => Draw.firstName setting.locale,
  words "last" fun setting => Draw.lastName setting.locale,
  words "name" fun setting => Draw.fullName setting.locale,
  words "url" fun _ => Draw.url,
  words "domain" fun _ => Draw.domain,
  words "email" fun _ => Draw.email,
  words "ip" fun _ => Draw.ip,
  words "tld" fun _ => Draw.topLevel]

/-- Functions that change a text, and the choice among arguments. -/
def transformSignatures : List Signature := [
  one "capitalize" renderedArgument fun _ text => pure (.str (Text.capitalize text)),
  one "upper" renderedArgument fun _ text => pure (.str (Text.upper text)),
  one "lower" renderedArgument fun _ text => pure (.str (Text.lower text)),
  ⟨"pick", .atLeast 1, fun _ arguments => do
    match ← (Draw.pick? arguments : Attempt (Option Json)) with
    | some value => pure value
    | none => throw (.argument "pick" .nothingToPick)⟩]

/-- Functions for identifiers, places and business. -/
def catalogueSignatures : List Signature := [
  words "guid" fun _ => Draw.guid,
  words "uuid" fun _ => Draw.guid,
  words "id" fun _ => Draw.identifier,
  words "color" fun _ => Draw.color,
  words "city" fun setting => Draw.city setting.locale,
  words "province" fun setting => Draw.province setting.locale,
  words "company" fun setting => Draw.company setting.locale,
  words "profession" fun _ => Draw.profession,
  words "streetname" fun setting => Draw.streetName setting.locale,
  words "emaildomain" fun setting => Draw.mailDomain setting.locale]

/-- The kind of phone number that a text names, for the function `name`. -/
def phoneKind (name text : String) : Except ResolutionError PhoneKind :=
  match PhoneKind.read? text with
  | some kind => .ok kind
  | none => fault name (.unknownPhoneKind text)

/-- The functions for phone numbers under one name: without arguments, with a kind or a format, and
with a format and a kind. -/
def phoneSignatures (name : String) : List Signature := [
  words name fun _ => Draw.phone none none,
  one name textArgument fun _ text =>
    match PhoneKind.read? text with
    | some kind => textOf (Draw.phone none (some kind))
    | none => textOf (Draw.phone (some text) none),
  two name textArgument textArgument fun _ format text => do
    let kind ← ofExcept (phoneKind name text)
    textOf (Draw.phone (some format) (some kind))]

/-- All built-in functions, in the order of their registration. -/
def signatures : List Signature :=
  numberSignatures ++ textSignatures ++ rangeSignatures ++ timeSignatures ++ fillerSignatures ++
    peopleSignatures ++ transformSignatures ++ catalogueSignatures ++ phoneSignatures "phone" ++
    phoneSignatures "phonenumber"

end Builtin

/-- The registry of the built-in functions. -/
def Registry.default : Registry := Registry.empty.registerAll Builtin.signatures

end Specimen
