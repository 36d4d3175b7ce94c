import Specimen.Random.Pool
import Specimen.Rule.Basic
import Specimen.Text.DecimalDigit

set_option autoImplicit false

/-!
# Texts in the shape of a pattern

A text is made for a pattern by its looks, not by its meaning: patterns of mail addresses, patterns
that mix capital and small letters, and patterns with one of five classes of characters have shapes
of their own, and every other pattern gives letters and digits.

## Main definitions

* `Specimen.Pattern.CharClass` — the five classes, with the characters they stand for.
* `Specimen.Pattern.Quantifier` — the bounds written behind a class.
* `Specimen.Pattern.lengthFor` — how long the text for a class is.
* `Specimen.Pattern.parts` — the classes of a pattern with their bounds.
* `Specimen.Pattern.synthesize` — the text for a pattern.
-/

namespace Specimen.Pattern

/-! ## Looking for texts -/

/-- One text occurs in another. -/
def occurs (needle : List Char) : List Char → Bool
  | [] => needle.isEmpty
  | c :: rest => needle.isPrefixOf (c :: rest) || occurs needle rest

/-! ## Classes -/

/-- The classes of characters that shape a text. -/
inductive CharClass where
  /-- Digits, written with an escape. -/
  | digit
  /-- Characters of words. -/
  | word
  /-- Small letters. -/
  | lower
  /-- Capital letters. -/
  | upper
  /-- Digits, written as a range. -/
  | number
  deriving DecidableEq, Repr

namespace CharClass

/-- The classes in the order in which they are looked for. -/
def all : List CharClass := [.digit, .word, .lower, .upper, .number]

/-- How a class is written. -/
def text : CharClass → List Char
  | .digit => ['\\', 'd']
  | .word => ['\\', 'w']
  | .lower => ['[', 'a', '-', 'z', ']']
  | .upper => ['[', 'A', '-', 'Z', ']']
  | .number => ['[', '0', '-', '9', ']']

/-- The characters of a class. -/
def pool : CharClass → List Char
  | .digit => Pool.digits
  | .word => Pool.wordCharacters
  | .lower => Pool.lowercase
  | .upper => Pool.uppercase
  | .number => Pool.digits

/-- The class written at the front of a text. -/
def at? (pattern : List Char) : Option CharClass :=
  all.find? fun c => c.text.isPrefixOf pattern

end CharClass

/-! ## Quantifiers -/

/-- The digits between braces: one number, or two with a comma. -/
structure Quantifier where
  /-- The digits of the first number. -/
  low : List Char
  /-- The digits of the second number. -/
  high : Option (List Char)
  deriving DecidableEq, Repr

namespace Quantifier

/-- The number of characters of a quantifier, braces and comma included. -/
def width (q : Quantifier) : Nat :=
  match q.high with
  | none => q.low.length + 2
  | some high => q.low.length + high.length + 3

/-- The quantifier at the front of a text. Digits of all scripts count as digits here. -/
def at? : List Char → Option Quantifier
  | '{' :: rest =>
    let low := rest.takeWhile Text.isDecimalDigit
    if low = [] then none
    else
      match rest.dropWhile Text.isDecimalDigit with
      | '}' :: _ => some ⟨low, none⟩
      | ',' :: rest =>
        let high := rest.takeWhile Text.isDecimalDigit
        if high = [] then none
        else
          match rest.dropWhile Text.isDecimalDigit with
          | '}' :: _ => some ⟨low, some high⟩
          | _ => none
      | _ => none
  | _ => none

/-- The first quantifier in a text. -/
def first? : List Char → Option Quantifier
  | [] => none
  | c :: rest => at? (c :: rest) <|> first? rest

/-- A bound: an ASCII numeral up to the limit of repetitions. -/
def quantity? (digits : List Char) : Option Nat := do
  let n ← Integer.readNat? digits
  if n ≤ maxRepeat.toNat then some n else none

/-- The bounds that a quantifier sets, when both numbers are bounds. -/
def bounds? (q : Quantifier) : Option (Nat × Nat) := do
  let low ← quantity? q.low
  match q.high with
  | none => some (low, low)
  | some high => (quantity? high).map fun high => (low, high)

end Quantifier

/-! ## Patterns of one class -/

/-- The bounds of a length that nothing else determines. -/
def defaultLength : Nat × Nat := (5, 10)

/-- The quantifier behind the first occurrence of a class that has one. -/
def attached? (c : CharClass) : List Char → Option Quantifier
  | [] => none
  | x :: rest =>
    (if c.text.isPrefixOf (x :: rest) then Quantifier.at? ((x :: rest).drop c.text.length)
      else none) <|> attached? c rest

/-- The bounds of the length of the text for a class: those of the quantifier behind it, or of the
first quantifier of the pattern, or the default. -/
def lengthFor (pattern : List Char) (c : CharClass) : Nat × Nat :=
  match attached? c pattern <|> Quantifier.first? pattern with
  | some q => q.bounds?.getD defaultLength
  | none => defaultLength

/-! ## Patterns of several classes -/

/-- A class with the bounds of its length. -/
structure Part where
  /-- The class. -/
  charClass : CharClass
  /-- The quantifier behind it. -/
  quantifier : Option Quantifier
  deriving DecidableEq, Repr

namespace Part

/-- The first bound, which is one without a quantifier. -/
def low (part : Part) : Nat := (part.quantifier.bind fun q => Quantifier.quantity? q.low).getD 1

/-- The second bound, which is the first one when it is not given. -/
def high (part : Part) : Nat :=
  (part.quantifier.bind fun q => q.high.bind Quantifier.quantity?).getD part.low

end Part

/-- The classes of a pattern with their quantifiers, from left to right; so many characters have
been taken by the part before. -/
def partsFrom : Nat → List Char → List Part
  | _, [] => []
  | taken + 1, _ :: rest => partsFrom taken rest
  | 0, c :: rest =>
    match CharClass.at? (c :: rest) with
    | none => partsFrom 0 rest
    | some found =>
      let quantifier := Quantifier.at? ((c :: rest).drop found.text.length)
      let width := found.text.length + (quantifier.map Quantifier.width).getD 0
      ⟨found, quantifier⟩ :: partsFrom (width - 1) rest

/-- The classes of a pattern with their quantifiers. -/
def parts (pattern : List Char) : List Part := partsFrom 0 pattern

/-- The characters of a class, between its bounds in number. -/
def synthesizePart (part : Part) : Draw (List Char) :=
  Draw.textBetween part.low part.high part.charClass.pool

/-- Letters and digits of the default length. -/
def synthesizeDefault : Draw (List Char) :=
  Draw.textBetween defaultLength.1 defaultLength.2 Pool.alphanumeric

/-- The texts of all parts of a pattern, one after the other. -/
def synthesizeParts (pattern : List Char) : Draw (List Char) := do
  let pieces ← Draw.forEach synthesizePart (parts pattern)
  if pieces.flatten.isEmpty then synthesizeDefault else pure pieces.flatten

/-! ## All patterns -/

/-- The top-level domains of mail addresses. -/
def mailTopLevels : List String := ["com", "org", "net", "edu"]

/-- A mail address. -/
def synthesizeMail : Draw (List Char) := do
  let user ← Draw.textBetween 5 10 Pool.lowerAlphanumeric
  let domain ← Draw.textBetween 3 8 Pool.lowercase
  let position ← Draw.index mailTopLevels.length
  pure (user ++ '@' :: (domain ++ '.' :: (mailTopLevels.getD position "").toList))

/-- The pattern looks like one of mail addresses. -/
def looksLikeMail (pattern : List Char) : Bool := '@' ∈ pattern && occurs ['\\', '.'] pattern

/-- The pattern has both capital and small letters. -/
def mixesCases (pattern : List Char) : Bool :=
  occurs CharClass.upper.text pattern && occurs CharClass.lower.text pattern

/-- The text for a pattern. -/
def synthesize (pattern : List Char) : Draw (List Char) :=
  if looksLikeMail pattern then synthesizeMail
  else if mixesCases pattern then synthesizeParts pattern
  else
    match CharClass.all.find? fun c => occurs c.text pattern with
    | some c =>
      let (low, high) := lengthFor pattern c
      Draw.textBetween low high c.pool
    | none => synthesizeDefault

end Specimen.Pattern
