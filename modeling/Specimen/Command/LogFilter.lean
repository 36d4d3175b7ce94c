import Specimen.Decimal.Numeral
import Specimen.Pattern.Meaning

set_option autoImplicit false

/-!
# Filters of the log

A filter is a list of directives with commas between them. A directive is a level, or the beginning
of the name of a part of the program, perhaps with an equals sign and a level after it. In brackets
it may name a span, which is a named stretch of a run, and in braces within them a field, perhaps
with an equals sign and a value after it.

The program has no spans, so that a directive for a span never counts, nor does one for the value of
a field, which only spans have at the right time. Of the directives that fit an event, the one with
the longest name of a part counts; of several with that name, one with a field, and then the last.

## Main definitions

* `Specimen.Command.Verbosity` — the levels.
* `Specimen.Command.Directive` — the directives.
* `Specimen.Command.Directive.read?` — the directive that a text writes.
* `Specimen.Command.admits` — whether an event of the level for information is logged.
-/

namespace Specimen.Command

/-! ## Levels -/

/-- How much is logged, from nothing to everything. -/
inductive Verbosity where
  /-- Nothing. -/
  | off
  /-- Errors. -/
  | error
  /-- Warnings, too. -/
  | warn
  /-- Information, too. -/
  | info
  /-- What helps to find mistakes, too. -/
  | debug
  /-- Everything. -/
  | trace
  deriving DecidableEq, Repr

namespace Verbosity

/-- All levels, by their names. -/
def names : List (String × Verbosity) := [
  ("off", .off), ("error", .error), ("warn", .warn), ("info", .info), ("debug", .debug),
  ("trace", .trace)]

/-- All levels, by their numbers. -/
def numbers : List (Nat × Verbosity) := [
  (0, .off), (1, .error), (2, .warn), (3, .info), (4, .debug), (5, .trace)]

/-- The level of a number, which may have a plus sign and zeros in front. -/
def ofNumber? (text : List Char) : Option Verbosity := do
  let digits := if text.head? = some '+' then text.drop 1 else text
  numbers.lookup (← Integer.readNat? digits)

/-- The level of a number, or of a name in letters of either case. -/
def read? (text : List Char) : Option Verbosity :=
  (ofNumber? text).or (names.lookup (String.ofList (Text.asciiLower text)))

/-- The level at the end of a directive; everything when there is none. -/
def readEnd? (text : List Char) : Option Verbosity :=
  if text.isEmpty then some .trace else read? text

/-- Information is logged at the level. -/
def admitsInfo : Verbosity → Bool
  | .info => true
  | .debug => true
  | .trace => true
  | _ => false

end Verbosity

/-! ## Fields -/

/-- A value in a directive: a number, or a pattern whose edges of words, if any, are those of ASCII
words. Truth values are patterns, too. -/
def isFieldValue (text : List Char) : Bool :=
  (Decimal.read? text).isSome ||
    ((Pattern.readForm? text).any fun form => !form.anyLook Pattern.Look.readsUnicode)

/-- A field in a directive. -/
structure FieldTest where
  /-- The name of the field. -/
  name : List Char
  /-- A value is named, too. -/
  hasValue : Bool
  deriving DecidableEq, Repr

/-- The field that the text in braces writes. What stands after a second equals sign does not
count. -/
def FieldTest.read? (text : List Char) : Option FieldTest :=
  match text.splitOn '=' with
  | [] => none
  | [name] => if name.isEmpty then none else some ⟨name, false⟩
  | name :: value :: _ => if isFieldValue value then some ⟨name, true⟩ else none

/-! ## Directives -/

/-- A directive of a filter. -/
structure Directive where
  /-- The beginning of the names of parts of the program for which it is. -/
  target : List Char
  /-- It is for a span. -/
  span : Bool
  /-- It is for what has a field. -/
  field : Option FieldTest
  /-- How much is logged. -/
  verbosity : Verbosity
  deriving DecidableEq, Repr

/-- What is read in a directive, and where it began. -/
inductive DirectiveStage where
  /-- Nothing yet. -/
  | start
  /-- A level or the name of a part. -/
  | name
  /-- The name of a span. -/
  | span (begun : Nat)
  /-- A field. -/
  | field (begun : Nat)
  /-- The end of the braces. -/
  | braced
  /-- The end of the brackets. -/
  | bracketed
  /-- A level. -/
  | level (begun : Nat)
  deriving DecidableEq, Repr

namespace Directive

/-- A directive for everything. -/
def all : Directive := ⟨[], false, none, .trace⟩

/-- A character that a directive can begin with. -/
def isFirst (c : Char) : Bool :=
  Text.isAlphabetic c || Text.isNumeric c || c == '-' || c == ':' || c == '_'

/-- The part of a text between two positions. -/
def slice (text : List Char) (start stop : Nat) : List Char := (text.take stop).drop start

/-- The directive so far and the stage after the character `c` at the position `i`, where `text` is
what parts are cut from. -/
def step (text : List Char) (i : Nat) (c : Char) (directive : Directive) :
    DirectiveStage → Option (Directive × DirectiveStage)
  | .start =>
    if c = '[' then some (directive, .span (i + 1))
    else if isFirst c then some (directive, .name)
    else none
  | .name =>
    if c = '=' then some ({ directive with target := slice text 0 i }, .level (i + 1))
    else if c = '[' then some ({ directive with target := slice text 0 i }, .span (i + 1))
    else some (directive, .name)
  | .span begun =>
    if c = ']' then some ({ directive with span := true }, .bracketed)
    else if c = '\x7b' then
      some ({ directive with span := !(slice text begun i).isEmpty }, .field (i + 1))
    else some (directive, .span begun)
  | .field begun =>
    if c = '\x7d' then
      (FieldTest.read? (slice text begun i)).map fun test =>
        ({ directive with field := some test }, .braced)
    else some (directive, .field begun)
  | .braced => if c = ']' then some (directive, .bracketed) else none
  | .bracketed => if c = '=' then some (directive, .level (i + 1)) else none
  | .level begun => some (directive, .level begun)

/-- The directive at its end. What may be a level or a name is a level if it can. -/
def finish (text : List Char) (directive : Directive) : DirectiveStage → Option Directive
  | .name =>
    match Verbosity.read? text with
    | some level => some { directive with verbosity := level }
    | none => some { directive with target := text }
  | .level begun =>
    (Verbosity.readEnd? (text.drop begun)).map fun level => { directive with verbosity := level }
  | .bracketed => some directive
  | _ => none

/-- The directive that a text writes. Positions are counted without the blanks at the ends of the
text, but parts are cut from the text with its blanks. -/
def read? (text : List Char) : Option Directive := do
  let (directive, stage) ← (Text.trim text).zipIdx.foldlM
    (fun (directive, stage) (c, i) => step text i c directive stage)
    ((all, .start) : Directive × DirectiveStage)
  directive.finish text stage

/-- The directive can count without a span. -/
def isStatic (directive : Directive) : Bool :=
  !directive.span && directive.field.all fun test => !test.hasValue

/-- The directive fits an event with fields in a part of the program. -/
def fits (directive : Directive) (part : List Char) (fields : List String) : Bool :=
  directive.isStatic && directive.target.isPrefixOf part &&
    directive.field.all fun test => fields.contains (String.ofList test.name)

/-- The directive that counts among two that fit, where the second comes later. -/
def stronger (first second : Directive) : Directive :=
  if second.target.length ≠ first.target.length then
    if first.target.length < second.target.length then second else first
  else
    match first.field, second.field with
    | some _, none => first
    | none, some _ => second
    | some a, some b => if b.name < a.name then first else second
    | none, none => second

end Directive

/-! ## Filters -/

/-- The directives that a text writes; empty ones are left out. -/
def readFilter? (text : String) : Option (List Directive) :=
  ((text.toList.splitOn ',').filter fun directive => !directive.isEmpty).mapM Directive.read?

/-- The directive that counts for an event with fields in a part of the program. -/
def governing? (directives : List Directive) (part : List Char) (fields : List String) :
    Option Directive :=
  directives.foldl
    (fun found directive =>
      if directive.fits part fields then
        some (match found with
          | some first => first.stronger directive
          | none => directive)
      else found)
    none

/-- The name of the program. -/
def programName : String := "templar"

/-- An event of the level for information, with fields, is logged under a setting of the filter.
Without setting, or with one that makes no sense, it is; an empty setting admits errors only. -/
def admits (setting : Option String) (fields : List String) : Bool :=
  match setting.bind readFilter? with
  | none => true
  | some directives =>
    match governing? directives programName.toList fields with
    | some directive => directive.verbosity.admitsInfo
    | none => false

end Specimen.Command
