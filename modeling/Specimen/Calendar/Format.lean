import Specimen.Calendar.Moment
import Specimen.Text.Case

set_option autoImplicit false

/-!
# Formatting points in time

A format is a list of items, each of which prints a field of a moment or itself. There are two
notations. With a percent sign anywhere in it, a pattern is in the notation of directives: a percent
sign, perhaps a padding mark, and a letter; an unknown directive makes the whole pattern invalid.
Without a percent sign a run of equal letters is a field, and letters without meaning, other
characters and everything between single quotes print themselves. Such a pattern is read in the
notation of directives after its runs of letters have been replaced.

## Main definitions

* `Specimen.Calendar.Item` — a field or a character.
* `Specimen.Calendar.Item.render` — what an item prints.
* `Specimen.Calendar.readDirectives` — the items of a pattern with directives.
* `Specimen.Calendar.translate` — a pattern of letters in the notation of directives.
* `Specimen.Calendar.formatInstant?`, `Specimen.Calendar.format?` — the text of an instant and of a
  moment in a pattern of either notation.
-/

namespace Specimen.Calendar

/-! ## Items -/

/-- What fills up a short number. -/
inductive Padding where
  /-- Nothing. -/
  | bare
  /-- Zeros. -/
  | zeros
  /-- Blanks. -/
  | blanks
  deriving DecidableEq, Repr

/-- The numeric fields. -/
inductive NumberField where
  /-- The year. -/
  | year
  /-- The year without its last two digits. -/
  | century
  /-- The last two digits of the year. -/
  | yearOfCentury
  /-- The year that the international week belongs to. -/
  | isoYear
  /-- The last two digits of that year. -/
  | isoYearOfCentury
  /-- The quarter of the year. -/
  | quarter
  /-- The month. -/
  | month
  /-- The day of the month. -/
  | day
  /-- The day of the year. -/
  | dayOfYear
  /-- The number of the week, weeks beginning on Sunday. -/
  | weekFromSunday
  /-- The number of the week, weeks beginning on Monday. -/
  | weekFromMonday
  /-- The number of the international week. -/
  | isoWeek
  /-- The day of the week, Monday being one. -/
  | weekdayFromMonday
  /-- The day of the week, Sunday being zero. -/
  | weekdayFromSunday
  /-- The hour. -/
  | hour
  /-- The hour on a dial of twelve hours. -/
  | hour12
  /-- The minute. -/
  | minute
  /-- The second. -/
  | second
  /-- The nanoseconds since the last full second. -/
  | nanosecond
  /-- The seconds since the start of 1970. -/
  | timestamp
  deriving DecidableEq, Repr

/-- The fields that print words. -/
inductive WordField where
  /-- The first three letters of the month. -/
  | monthShort
  /-- The month. -/
  | monthLong
  /-- The first three letters of the day of the week. -/
  | weekdayShort
  /-- The day of the week. -/
  | weekdayLong
  /-- The half of the day, in capital letters. -/
  | halfUpper
  /-- The half of the day, in small letters. -/
  | halfLower
  deriving DecidableEq, Repr

/-- A part of a format. -/
inductive Item where
  /-- A character that prints itself. -/
  | literal (c : Char)
  /-- A numeric field. -/
  | number (field : NumberField) (padding : Padding)
  /-- A field that prints a word. -/
  | word (field : WordField)
  /-- The first places of the fraction of the second. -/
  | fraction (places : Nat)
  /-- The fraction of the second behind a point, in three, six or nine places as it needs, and
  nothing at a full second. -/
  | wholeFraction
  deriving DecidableEq, Repr

/-! ## Printing -/

/-- Decimal digits in a field of some width. -/
def padLeft (filler : Char) (width : Nat) (digits : List Char) : List Char :=
  List.replicate (width - digits.length) filler ++ digits

/-- A number with a sign in front, padded to a width that the sign counts in. -/
def renderSigned (padding : Padding) (width : Nat) (sign : List Char) (n : Nat) : List Char :=
  let digits := (toString n).toList
  match padding with
  | .bare => sign ++ digits
  | .zeros => sign ++ padLeft '0' (width - sign.length) digits
  | .blanks => padLeft ' ' width (sign ++ digits)

/-- A number padded to a width; a negative one has its sign. -/
def renderNumber (padding : Padding) (width : Nat) (n : Int) : List Char :=
  renderSigned padding width (if n < 0 then ['-'] else []) n.natAbs

/-- A number of two places. It is held in a byte, and its tens are the character so many places
after the zero. -/
def renderTwo (padding : Padding) (n : Int) : List Char :=
  let byte := (n % 256).toNat
  let ones := Char.ofNat ('0'.toNat + byte % 10)
  if byte < 10 then
    match padding with
    | .bare => [ones]
    | .zeros => ['0', ones]
    | .blanks => [' ', ones]
  else [Char.ofNat ('0'.toNat + byte / 10), ones]

/-- A year: four places, and a sign when that is not enough or the year is negative. -/
def renderYear (padding : Padding) (year : Int) : List Char :=
  if 0 ≤ year ∧ year < 10000 then renderNumber padding 4 year
  else renderSigned padding 5 [if year < 0 then '-' else '+'] year.natAbs

/-- The nanoseconds of a second. -/
def nanoseconds : Nat := 1000000000

/-- What a numeric field prints. -/
def NumberField.render (t : Instant) (padding : Padding) : NumberField → List Char
  | .year => renderYear padding t.moment.year
  | .century => renderTwo padding (t.moment.year / 100)
  | .yearOfCentury => renderTwo padding (t.moment.year % 100)
  | .isoYear => renderYear padding t.moment.isoWeek.1
  | .isoYearOfCentury => renderTwo padding (t.moment.isoWeek.1 % 100)
  | .quarter => renderNumber .bare 1 ((t.moment.month - 1) / 3 + 1 : Nat)
  | .month => renderTwo padding t.moment.month
  | .day => renderTwo padding t.moment.day
  | .dayOfYear => renderNumber padding 3 t.moment.dayOfYear
  | .weekFromSunday => renderTwo padding (t.moment.weekFrom 6)
  | .weekFromMonday => renderTwo padding (t.moment.weekFrom 0)
  | .isoWeek => renderTwo padding t.moment.isoWeek.2
  | .weekdayFromMonday => renderNumber .bare 1 (t.moment.weekday + 1 : Nat)
  | .weekdayFromSunday => renderNumber .bare 1 ((t.moment.weekday + 1) % 7 : Nat)
  | .hour => renderTwo padding t.moment.hour
  | .hour12 => renderTwo padding t.moment.hour12
  | .minute => renderTwo padding t.moment.minute
  | .second => renderTwo padding (t.moment.second + t.nanosecond / nanoseconds : Nat)
  | .nanosecond => renderNumber padding 9 (t.nanosecond % nanoseconds : Nat)
  | .timestamp => renderNumber padding 9 t.moment.toSeconds

/-- The months. -/
def monthNames : List String :=
  ["January", "February", "March", "April", "May", "June", "July", "August", "September",
    "October", "November", "December"]

/-- The days of the week. -/
def weekdayNames : List String :=
  ["Monday", "Tuesday", "Wednesday", "Thursday", "Friday", "Saturday", "Sunday"]

/-- What a field of a word prints. -/
def WordField.render (m : Moment) : WordField → List Char
  | .monthShort => (monthNames.getD (m.month - 1) "").toList.take 3
  | .monthLong => (monthNames.getD (m.month - 1) "").toList
  | .weekdayShort => (weekdayNames.getD m.weekday "").toList.take 3
  | .weekdayLong => (weekdayNames.getD m.weekday "").toList
  | .halfUpper => if m.hour < 12 then ['A', 'M'] else ['P', 'M']
  | .halfLower => if m.hour < 12 then ['a', 'm'] else ['p', 'm']

/-- The first places of the fraction of a second that has so many nanoseconds. -/
def renderFraction (places fraction : Nat) : List Char :=
  renderNumber .zeros places (fraction / Nat.pow 10 (9 - places) : Nat)

/-- The places that a fraction with so many nanoseconds needs, in threes. -/
def placesOf (fraction : Nat) : Nat :=
  if fraction % 1000000 = 0 then 3 else if fraction % 1000 = 0 then 6 else 9

/-- What an item prints. -/
def Item.render (t : Instant) : Item → List Char
  | .literal c => [c]
  | .number field padding => field.render t padding
  | .word field => field.render t.moment
  | .fraction places => renderFraction places (t.nanosecond % nanoseconds)
  | .wholeFraction =>
    let fraction := t.nanosecond % nanoseconds
    if fraction = 0 then [] else '.' :: renderFraction (placesOf fraction) fraction

/-- What a list of items prints. -/
def render (t : Instant) (items : List Item) : List Char := items.flatMap (Item.render t)

/-! ## Directives -/

/-- The directives of one numeric field, with the padding they use. -/
def numberDirective? : Char → Option (NumberField × Padding)
  | 'Y' => some (.year, .zeros)
  | 'C' => some (.century, .zeros)
  | 'y' => some (.yearOfCentury, .zeros)
  | 'G' => some (.isoYear, .zeros)
  | 'g' => some (.isoYearOfCentury, .zeros)
  | 'q' => some (.quarter, .bare)
  | 'm' => some (.month, .zeros)
  | 'd' => some (.day, .zeros)
  | 'e' => some (.day, .blanks)
  | 'j' => some (.dayOfYear, .zeros)
  | 'U' => some (.weekFromSunday, .zeros)
  | 'W' => some (.weekFromMonday, .zeros)
  | 'V' => some (.isoWeek, .zeros)
  | 'u' => some (.weekdayFromMonday, .bare)
  | 'w' => some (.weekdayFromSunday, .bare)
  | 'H' => some (.hour, .zeros)
  | 'k' => some (.hour, .blanks)
  | 'I' => some (.hour12, .zeros)
  | 'l' => some (.hour12, .blanks)
  | 'M' => some (.minute, .zeros)
  | 'S' => some (.second, .zeros)
  | 'f' => some (.nanosecond, .zeros)
  | 's' => some (.timestamp, .bare)
  | _ => none

/-- The directives of a word. -/
def wordDirective? : Char → Option WordField
  | 'b' => some .monthShort
  | 'h' => some .monthShort
  | 'B' => some .monthLong
  | 'a' => some .weekdayShort
  | 'A' => some .weekdayLong
  | 'p' => some .halfUpper
  | 'P' => some .halfLower
  | _ => none

/-- A numeric field filled up with zeros. -/
def padded (field : NumberField) : Item := .number field .zeros

/-- Year, month and day with dashes. -/
def isoDate : List Item :=
  [padded .year, .literal '-', padded .month, .literal '-', padded .day]

/-- Month, day and year with slashes. -/
def slashDate : List Item :=
  [padded .month, .literal '/', padded .day, .literal '/', padded .yearOfCentury]

/-- Hour and minute. -/
def hourMinute : List Item := [padded .hour, .literal ':', padded .minute]

/-- Hour, minute and second. -/
def clock : List Item := hourMinute ++ [.literal ':', padded .second]

/-- Hour on a dial of twelve, minute, second and half of the day. -/
def dialClock : List Item :=
  [padded .hour12, .literal ':', padded .minute, .literal ':', padded .second, .literal ' ',
    .word .halfUpper]

/-- The directives that stand for several items, or for a character. -/
def compositeDirective? : Char → Option (List Item)
  | 'F' => some isoDate
  | 'D' => some slashDate
  | 'x' => some slashDate
  | 'T' => some clock
  | 'X' => some clock
  | 'R' => some hourMinute
  | 'r' => some dialClock
  | 'c' =>
    some ([.word .weekdayShort, .literal ' ', .word .monthShort, .literal ' ',
      .number .day .blanks, .literal ' '] ++ clock ++ [.literal ' ', padded .year])
  | 'v' =>
    some [.number .day .blanks, .literal '-', .word .monthShort, .literal '-', padded .year]
  | 'n' => some [.literal '\n']
  | 't' => some [.literal '\t']
  | '%' => some [.literal '%']
  | _ => none

/-- The items of a directive without padding mark. -/
def directive? (c : Char) : Option (List Item) :=
  match numberDirective? c with
  | some (field, padding) => some [.number field padding]
  | none =>
    match wordDirective? c with
    | some field => some [.word field]
    | none => compositeDirective? c

/-- The padding of a padding mark. -/
def paddingMark? : Char → Option Padding
  | '-' => some .bare
  | '_' => some .blanks
  | '0' => some .zeros
  | _ => none

/-- How many places of a fraction a digit asks for. -/
def fractionPlaces? : Char → Option Nat
  | '3' => some 3
  | '6' => some 6
  | '9' => some 9
  | _ => none

/-- Where in a directive a reader of patterns stands. -/
inductive Place where
  /-- Outside. -/
  | outside
  /-- After the percent sign. -/
  | percent
  /-- After a padding mark. -/
  | padding (padding : Padding)
  /-- After a point. -/
  | point
  /-- After the number of places of a fraction, perhaps with a point. -/
  | places (point : Bool) (count : Nat)

/-- The places of a fraction of a second. -/
def fractionItems (point : Bool) (count : Nat) : List Item :=
  (if point then [.literal '.'] else []) ++ [.fraction count]

/-- The items of a pattern with directives, read from some place; nothing for an invalid one. -/
def readDirectives : Place → List Char → Option (List Item)
  | .outside, [] => some []
  | .outside, c :: rest =>
    if c = '%' then readDirectives .percent rest
    else (readDirectives .outside rest).map (.literal c :: ·)
  | .percent, c :: rest =>
    match paddingMark? c with
    | some padding => readDirectives (.padding padding) rest
    | none =>
      match fractionPlaces? c with
      | some count => readDirectives (.places false count) rest
      | none =>
        if c = '.' then readDirectives .point rest
        else do
          let items ← directive? c
          let others ← readDirectives .outside rest
          some (items ++ others)
  | .padding padding, c :: rest => do
    let (field, _) ← numberDirective? c
    let others ← readDirectives .outside rest
    some (.number field padding :: others)
  | .point, c :: rest =>
    match fractionPlaces? c with
    | some count => readDirectives (.places true count) rest
    | none => if c = 'f' then (readDirectives .outside rest).map (.wholeFraction :: ·) else none
  | .places point count, c :: rest =>
    if c = 'f' then (readDirectives .outside rest).map (fractionItems point count ++ ·) else none
  | _, [] => none

/-! ## Letters -/

/-- The directive that a run of equal letters stands for. -/
def runDirective? : Char → Nat → Option (List Char)
  | 'y', 2 => some ['%', 'y']
  | 'y', _ => some ['%', 'Y']
  | 'M', 1 => some ['%', '-', 'm']
  | 'M', 2 => some ['%', 'm']
  | 'M', 3 => some ['%', 'b']
  | 'M', _ => some ['%', 'B']
  | 'd', 1 => some ['%', '-', 'd']
  | 'd', _ => some ['%', 'd']
  | 'H', 1 => some ['%', '-', 'H']
  | 'H', _ => some ['%', 'H']
  | 'h', _ => some ['%', 'I']
  | 'm', _ => some ['%', 'M']
  | 's', _ => some ['%', 'S']
  | 'S', _ => some ['%', '3', 'f']
  | 'a', _ => some ['%', 'p']
  | 'E', _ => some ['%', 'a']
  | _, _ => none

/-- What a run of equal letters becomes: a directive, or the letters themselves. -/
def translateRun : Option (Char × Nat) → List Char
  | none => []
  | some (c, count) => (runDirective? c count).getD (List.replicate count c)

/-- A run that goes on with a further letter, or gives way to a new one: what becomes of a run that
has ended, and the run that is open. -/
def extendRun : Option (Char × Nat) → Char → List Char × Option (Char × Nat)
  | some (d, count), c =>
    if c = d then ([], some (d, count + 1)) else (translateRun (some (d, count)), some (c, 1))
  | none, c => ([], some (c, 1))

/-- The pattern with directives that a pattern of letters becomes, read inside or outside quotes
with a run of letters open. -/
def translateLetters (quoted : Bool) (run : Option (Char × Nat)) : List Char → List Char
  | [] => translateRun run
  | c :: rest =>
    if c = '\'' then translateRun run ++ translateLetters (!quoted) none rest
    else if quoted || !Text.isAsciiLetter c then
      translateRun run ++ c :: translateLetters quoted none rest
    else
      let (done, next) := extendRun run c
      done ++ translateLetters quoted next rest

/-! ## Patterns -/

/-- A pattern of either notation in the notation of directives. -/
def translate (pattern : List Char) : List Char :=
  if '%' ∈ pattern then pattern else translateLetters false none pattern

/-- The items of a pattern; nothing for an invalid one. -/
def readPattern? (pattern : List Char) : Option (List Item) :=
  readDirectives .outside (translate pattern)

/-- The text of an instant in a pattern; nothing for an invalid pattern. -/
def formatInstant? (t : Instant) (pattern : String) : Option String :=
  (readPattern? pattern.toList).map fun items => String.ofList (render t items)

/-- The text of a moment in a pattern, at the beginning of its second. -/
def format? (m : Moment) (pattern : String) : Option String := formatInstant? ⟨m, 0⟩ pattern

end Specimen.Calendar
