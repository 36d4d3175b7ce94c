import Specimen.Pattern.Tree
import Specimen.Text.Blank
import Specimen.Text.Property

set_option autoImplicit false

/-!
# Reading patterns

A pattern is read from left to right. What is open around a place, groups and choices outside
brackets, sets and operators inside them, stands on a pile. While blanks do not count, they and
comments, which reach from a number sign to the end of the line, are skipped between the signs of a
pattern.

## Main definitions

* `Specimen.Pattern.readEscape` — what a backslash begins.
* `Specimen.Pattern.readSet` — a set in brackets.
* `Specimen.Pattern.Tree.read?` — a pattern.
-/

namespace Specimen.Pattern

open Specimen.Text

/-! ## Blanks and comments -/

/-- The text without blanks and comments in front; perhaps it begins in a comment. -/
def skipBlanks : Bool → List Char → List Char
  | _, [] => []
  | true, c :: rest => skipBlanks (c != '\n') rest
  | false, c :: rest =>
    if isBlank c then skipBlanks false rest
    else if c = '#' then skipBlanks true rest
    else c :: rest

/-- The text without blanks and comments in front, when they do not count. -/
def skip (blanks : Bool) (text : List Char) : List Char :=
  if blanks then skipBlanks false text else text

/-- The next character that is no blank. A number sign is passed over once. When there is none, the
next character. -/
def peek (blanks : Bool) (text : List Char) : Option Char :=
  if blanks then
    match text.dropWhile isBlank with
    | '#' :: rest => ((rest.dropWhile isBlank).head?).or text.head?
    | rest => rest.head?.or text.head?
  else text.head?

/-! ## Numbers and names between braces -/

/-- The characters up to a closing brace, and the text after it; perhaps in a comment. Blanks and
comments are left out when they do not count. -/
def readBraces (blanks : Bool) : Bool → List Char → Option (List Char × List Char)
  | _, [] => none
  | true, c :: rest => readBraces blanks (c != '\n') rest
  | false, c :: rest =>
    if blanks && isBlank c then readBraces blanks false rest
    else if blanks && c = '#' then readBraces blanks true rest
    else if c = '}' then some ([], rest)
    else (readBraces blanks false rest).map fun (body, rest) => (c :: body, rest)

/-- The digits in front, perhaps in a comment, and the text after them. Blanks and comments among
them are left out when they do not count. -/
def readDigits (blanks : Bool) : Bool → List Char → List Char × List Char
  | _, [] => ([], [])
  | true, c :: rest => readDigits blanks (c != '\n') rest
  | false, c :: rest =>
    if Integer.isDigit c then
      let (digits, rest) := readDigits blanks false rest
      (c :: digits, rest)
    else if blanks && isBlank c then readDigits blanks false rest
    else if blanks && c = '#' then readDigits blanks true rest
    else ([], c :: rest)

/-- Counts are below the number of words of thirty-two bits. -/
def countLimit : Nat := 0x100000000

/-- A count in front, perhaps with blanks around it, and the text after it. -/
def readCount (blanks : Bool) (text : List Char) : Option Nat × List Char :=
  let (digits, rest) := readDigits blanks false (text.dropWhile isBlank)
  ((Integer.readNat? digits).filter fun count => count < countLimit, rest.dropWhile isBlank)

/-- The bounds of a repetition after its opening brace, and the text after the closing one. -/
def readBounds (blanks : Bool) (text : List Char) :
    Option ((Nat × Option Nat) × List Char) :=
  match readCount blanks (skip blanks text) with
  | (some low, '}' :: rest) => some ((low, some low), rest)
  | (some low, ',' :: rest) =>
    match skip blanks rest with
    | '}' :: rest => some ((low, none), rest)
    | rest =>
      match readCount blanks rest with
      | (some high, '}' :: rest) => if low ≤ high then some ((low, some high), rest) else none
      | _ => none
  | _ => none

/-! ## Escapes -/

/-- A character of a code. -/
def ofCode? (digits : List Char) : Option Char := do
  let code ← Integer.ofBase? 16 digits
  if code.isValidChar then some (Char.ofNat code) else none

/-- So many hexadecimal digits, and the text after them. -/
def readHex (blanks : Bool) : Nat → List Char → Option (List Char × List Char)
  | 0, text => some ([], text)
  | _ + 1, [] => none
  | count + 1, c :: rest =>
    if (Integer.digit? 16 c).isSome then
      (readHex blanks count (skip blanks rest)).map fun (digits, rest) => (c :: digits, rest)
    else none

/-- The character of a code after the letter of its escape: so many digits, or digits in braces. -/
def readCode (blanks : Bool) (count : Nat) (text : List Char) :
    Option (Literal × List Char) :=
  match skip blanks text with
  | '{' :: rest => do
    let (digits, rest) ← readBraces blanks false rest
    if digits.isEmpty then none else some (.plain (← ofCode? digits), rest)
  | text => do
    let (digits, rest) ← readHex blanks count text
    some (⟨← ofCode? digits, count == 2⟩, rest)

/-- The query that a text in braces writes. -/
def queryOf (text : List Char) : PropertyQuery :=
  match findPair text with
  | some (property, value) => .valued property value
  | none =>
    match (cut? ':' text).or (cut? '=' text) with
    | some (property, value) => .valued property value
    | none => .named text
where
  /-- The parts before and after the first sign for inequality, which means the same as one for
  equality. -/
  findPair : List Char → Option (List Char × List Char)
    | [] => none
    | [_] => none
    | a :: b :: rest =>
      if a = '!' ∧ b = '=' then some ([], rest)
      else (findPair (b :: rest)).map fun (before, after) => (a :: before, after)

/-- The query after the letter of its escape: one letter, or a text in braces. -/
def readQuery (blanks : Bool) (text : List Char) : Option (PropertyQuery × List Char) :=
  match skip blanks text with
  | [] => none
  | '{' :: rest => (readBraces blanks false rest).map fun (body, rest) => (queryOf body, rest)
  | c :: rest => if c = '\\' then none else some (.named [c], rest)

/-- A character of a name in the braces after the edge of a word. -/
def isEdgeLetter (c : Char) : Bool :=
  ('a' ≤ c && c ≤ 'z') || ('A' ≤ c && c ≤ 'Z') || c == '-'

/-- What the braces after the edge of a word can say. -/
def edgeNames : List (String × Assertion) := [
  ("start", .wordStart false), ("end", .wordEnd false), ("start-half", .wordStart true),
  ("end-half", .wordEnd true)]

/-- The edge of a word, and the text after it. Braces make it more precise when a letter or a dash
follows. -/
def readEdge (blanks : Bool) (text : List Char) : Option (Assertion × List Char) :=
  match text with
  | '{' :: rest =>
    match skip blanks rest with
    | [] => none
    | c :: _ =>
      if isEdgeLetter c then do
        let (body, rest) ← readBraces blanks false rest
        (edgeNames.lookup (String.ofList body)).map fun found => (found, rest)
      else some (.edge, text)
  | text => some (.edge, text)

/-- An ASCII character that is neither a letter nor a digit nor an angle stands for itself after a
backslash. -/
def standsForItself (c : Char) : Bool :=
  c.toNat < 0x80 && !c.isAlphanum && c != '<' && c != '>'

/-- What a letter stands for after a backslash. -/
def escapeLetters : List (Char × Escape) := [
  ('d', .shorthand .digit false), ('s', .shorthand .blank false), ('w', .shorthand .word false),
  ('D', .shorthand .digit true), ('S', .shorthand .blank true), ('W', .shorthand .word true),
  ('a', .literal (.plain '\x07')), ('f', .literal (.plain '\x0c')),
  ('t', .literal (.plain '\t')), ('n', .literal (.plain '\n')), ('r', .literal (.plain '\r')),
  ('v', .literal (.plain '\x0b')), ('A', .assertion .textStart), ('z', .assertion .textEnd),
  ('B', .assertion .noEdge), ('<', .assertion (.wordStart false)),
  ('>', .assertion (.wordEnd false))]

/-- What follows a backslash, and the text after it. -/
def readEscape (blanks : Bool) : List Char → Option (Escape × List Char)
  | [] => none
  | 'x' :: rest => (readCode blanks 2 rest).map fun (l, rest) => (.literal l, rest)
  | 'u' :: rest => (readCode blanks 4 rest).map fun (l, rest) => (.literal l, rest)
  | 'U' :: rest => (readCode blanks 8 rest).map fun (l, rest) => (.literal l, rest)
  | 'p' :: rest => (readQuery blanks rest).map fun (query, rest) => (.property query false, rest)
  | 'P' :: rest => (readQuery blanks rest).map fun (query, rest) => (.property query true, rest)
  | 'b' :: rest => (readEdge blanks rest).map fun (found, rest) => (.assertion found, rest)
  | c :: rest =>
    if standsForItself c then some (.literal (.plain c), rest)
    else (escapeLetters.lookup c).map fun found => (found, rest)

/-! ## Sets in brackets -/

/-- The names of sets of ASCII characters. -/
def posixNames : List (String × PosixName) := [
  ("alnum", .alnum), ("alpha", .alpha), ("ascii", .ascii), ("blank", .blank), ("cntrl", .cntrl),
  ("digit", .digit), ("graph", .graph), ("lower", .lower), ("print", .print), ("punct", .punct),
  ("space", .space), ("upper", .upper), ("word", .word), ("xdigit", .xdigit)]

/-- A named set of ASCII characters after its opening bracket, and the text after it. -/
def readPosix : List Char → Option (SetTree × List Char)
  | ':' :: rest =>
    let negated := rest.head? == some '^'
    match cut? ':' (if negated then rest.drop 1 else rest) with
    | some (name, ']' :: rest) =>
      (posixNames.lookup (String.ofList name)).map fun found => (.posix found negated, rest)
    | _ => none
  | _ => none

/-- A character of a set or an escape, and the text after it. -/
def readMember (blanks : Bool) : List Char → Option (Escape × List Char)
  | [] => none
  | '\\' :: rest => readEscape blanks rest
  | c :: rest => some (.literal (.plain c), rest)

/-- What an escape stands for in brackets; positions have no place there. -/
def SetTree.ofEscape? : Escape → Option SetTree
  | .literal l => some (.literal l)
  | .shorthand kind negated => some (.shorthand kind negated)
  | .property query negated => some (.property query negated)
  | .assertion _ => none

/-- The characters from one to another. -/
def rangeOf? : Escape → Escape → Option SetTree
  | .literal low, .literal high => if low.char ≤ high.char then some (.range low high) else none
  | _, _ => none

/-- A member of a set or a range, and the text after it. A dash before a closing bracket or another
dash makes no range. -/
def readRange (blanks : Bool) (text : List Char) : Option (SetTree × List Char) := do
  let (low, rest) ← readMember blanks text
  match skip blanks rest with
  | [] => none
  | c :: rest =>
    if c ≠ '-' ∨ peek blanks rest = some ']' ∨ peek blanks rest = some '-' then
      some (← SetTree.ofEscape? low, c :: rest)
    else
      let (high, rest) ← readMember blanks (skip blanks rest)
      some (← rangeOf? low high, rest)

/-- What is open in brackets: a bracket after members of the set around it, or an operator after
what it is about. -/
inductive SetFrame where
  /-- A bracket. -/
  | bracket (before : List SetTree) (negated : Bool)
  /-- An operator. -/
  | operator (operator : SetOperator) (left : SetTree)

/-- A place in brackets: what is open, the members since, the latest one first, and the text. -/
structure SetPlace where
  /-- What is open, the latest first. -/
  frames : List SetFrame
  /-- The members, the latest one first. -/
  items : List SetTree
  /-- The text. -/
  text : List Char

namespace SetPlace

/-- The members, put together with what an open operator is about; what is open around it. -/
def settle (place : SetPlace) : SetTree × List SetFrame :=
  let set := SetTree.ofItems place.items.reverse
  match place.frames with
  | .operator operator left :: frames => (.operation operator left set, frames)
  | frames => (set, frames)

/-- The place after an operator. -/
def operate (place : SetPlace) (operator : SetOperator) (rest : List Char) : SetPlace :=
  let (set, frames) := place.settle
  ⟨.operator operator set :: frames, [], rest⟩

/-- Dashes in front of a set are members. -/
def takeDashes (blanks : Bool) : Nat → List SetTree → List Char → List SetTree × List Char
  | bound + 1, items, '-' :: rest =>
    takeDashes blanks bound (.literal (.plain '-') :: items) (skip blanks rest)
  | _, items, text => (items, text)

/-- The place after an opening bracket. A closing bracket in front of a set is a member. -/
def enter (place : SetPlace) (blanks : Bool) (rest : List Char) : SetPlace :=
  let text := skip blanks rest
  let negated := text.head? == some '^'
  let text := if negated then skip blanks (text.drop 1) else text
  let frames := .bracket place.items negated :: place.frames
  match takeDashes blanks text.length [] text with
  | ([], ']' :: rest) => ⟨frames, [.literal (.plain ']')], skip blanks rest⟩
  | (items, text) => ⟨frames, items, text⟩

/-- The place one member, bracket or operator further; or the set, when its last bracket closes. -/
def step (place : SetPlace) (blanks : Bool) : Option (SetPlace ⊕ (SetTree × List Char)) :=
  match skip blanks place.text with
  | [] => none
  | '[' :: rest =>
    match readPosix rest with
    | some (item, rest) => some (.inl ⟨place.frames, item :: place.items, rest⟩)
    | none => some (.inl (place.enter blanks rest))
  | ']' :: rest =>
    let (set, frames) := place.settle
    match frames with
    | [.bracket _ negated] => some (.inr (.bracketed negated set, rest))
    | .bracket before negated :: frames =>
      some (.inl ⟨frames, .bracketed negated set :: before, rest⟩)
    | _ => none
  | '&' :: '&' :: rest => some (.inl (place.operate .intersection rest))
  | '-' :: '-' :: rest => some (.inl (place.operate .difference rest))
  | '~' :: '~' :: rest => some (.inl (place.operate .symmetricDifference rest))
  | text => (readRange blanks text).map fun (item, rest) =>
      .inl ⟨place.frames, item :: place.items, rest⟩

/-- The set that closes within so many steps, and the text after it. -/
def finish (blanks : Bool) : Nat → SetPlace → Option (SetTree × List Char)
  | 0, _ => none
  | bound + 1, place =>
    match place.step blanks with
    | none => none
    | some (.inl next) => finish blanks bound next
    | some (.inr result) => some result

end SetPlace

/-- A set in brackets after the first of them, and the text after it. Each step takes a character,
so the length of the text bounds their number. -/
def readSet (blanks : Bool) (text : List Char) : Option (SetTree × List Char) :=
  (SetPlace.enter ⟨[], [], []⟩ blanks text).finish blanks (text.length + 1)

/-! ## Groups -/

/-- A character that the name of a group can begin with. -/
def isNameStart (c : Char) : Bool := c == '_' || isAlphabetic c

/-- A character of the name of a group. -/
def isNamePart (c : Char) : Bool :=
  isNameStart c || isNumeric c || c == '.' || c == '[' || c == ']'

/-- The name of a group up to its closing angle, and the text after it. -/
def readName (text : List Char) : Option (List Char × List Char) := do
  let (name, rest) ← cut? '>' text
  let first ← name.head?
  if isNameStart first && name.all isNamePart then some (name, rest) else none

/-- The letters of flags. -/
def flagLetters : List (Char × Flag) := [
  ('i', .ignoreCase), ('m', .multiLine), ('s', .dotMatchesLine), ('U', .swapGreed),
  ('u', .unicode), ('R', .carriageReturn), ('x', .ignoreBlanks)]

/-- The flags that letters switch on, or off; none of them twice. -/
def readFlags (before : List Flag) : List Char → Option (List Flag)
  | [] => some []
  | c :: rest => do
    let flag ← flagLetters.lookup c
    if flag ∈ before then none else some (flag :: (← readFlags (flag :: before) rest))

/-- Switches: letters, and perhaps a dash and letters after it. -/
def readSwitches (text : List Char) : Option Switches :=
  match cut? '-' text with
  | none => (readFlags [] text).map fun on => ⟨on, []⟩
  | some (on, off) => do
    let on ← readFlags [] on
    let off ← readFlags on off
    if off.isEmpty then none else some ⟨on, off⟩

/-- What a parenthesis can begin. -/
inductive Opening where
  /-- A group with a number, perhaps with a name. -/
  | capture (name : Option (List Char))
  /-- A group with switches. -/
  | scope (switches : Switches)
  /-- Switches alone. -/
  | switches (switches : Switches)

/-- A group with a name, after the opening angle. -/
def readNamed (text : List Char) : Option (Opening × List Char) :=
  (readName text).map fun (name, rest) => (.capture (some name), rest)

/-- What a parenthesis begins, and the text after that. -/
def readOpening (text : List Char) : Option (Opening × List Char) :=
  match text with
  | '?' :: 'P' :: '<' :: rest => readNamed rest
  | '?' :: '<' :: rest => readNamed rest
  | '?' :: rest => do
    let letters := rest.takeWhile fun c => c != ':' && c != ')'
    let switches ← readSwitches letters
    match rest.drop letters.length with
    | ':' :: rest => some (.scope switches, rest)
    | ')' :: rest => if letters.isEmpty then none else some (.switches switches, rest)
    | _ => none
  | text => some (.capture none, text)

/-! ## Patterns -/

/-- What is open outside brackets: a group after what comes before it, or a choice with its branches
so far. -/
inductive Frame where
  /-- A group; blanks counted, or not, before it. -/
  | group (before : List Tree) (kind : GroupKind) (blanks : Bool)
  /-- A choice. -/
  | choice (done : List Tree)

/-- A place in a pattern. -/
structure Place where
  /-- What is open, the latest first. -/
  frames : List Frame
  /-- The trees of the row, the latest one first. -/
  row : List Tree
  /-- Blanks and comments do not count. -/
  blanks : Bool
  /-- The number of the latest group with a number. -/
  groups : Nat
  /-- The names of groups. -/
  names : List (List Char)
  /-- The text. -/
  text : List Char

namespace Place

/-- The place after a tree. -/
def push (place : Place) (tree : Tree) (rest : List Char) : Place :=
  { place with row := tree :: place.row, text := rest }

/-- The row, with the other branches of an open choice; what is open around it. -/
def settle (place : Place) : Tree × List Frame :=
  let tree := Tree.inRow place.row.reverse
  match place.frames with
  | .choice done :: frames => (Tree.oneOf (tree :: done).reverse, frames)
  | frames => (tree, frames)

/-- The place after a bar. -/
def branch (place : Place) (rest : List Char) : Place :=
  let tree := Tree.inRow place.row.reverse
  match place.frames with
  | .choice done :: frames =>
    { place with frames := .choice (tree :: done) :: frames, row := [], text := rest }
  | frames => { place with frames := .choice [tree] :: frames, row := [], text := rest }

/-- The place in a group. -/
def enter (place : Place) (kind : GroupKind) (blanks : Bool) (rest : List Char) : Place :=
  { place with
    frames := .group place.row kind place.blanks :: place.frames, row := [], blanks := blanks,
    text := rest }

/-- The place after an opening parenthesis and what belongs to it. -/
def openGroup (place : Place) (rest : List Char) : Option Place := do
  let (opening, rest) ← readOpening (skip place.blanks rest)
  match opening with
  | .capture name =>
    let index := place.groups + 1
    let names := name.toList ++ place.names
    if name.toList.any fun name => place.names.any fun other => other == name then none
    else
      let named := { place with groups := index, names := names }
      some (named.enter (.numbered index) place.blanks rest)
  | .scope switches =>
    some (place.enter (.switched switches) (switches.after .ignoreBlanks place.blanks) rest)
  | .switches switches =>
    some { place.push (.switches switches) rest with
      blanks := switches.after .ignoreBlanks place.blanks }

/-- The place after a closing parenthesis. -/
def closeGroup (place : Place) (rest : List Char) : Option Place :=
  let (tree, frames) := place.settle
  match frames with
  | .group before kind blanks :: frames =>
    some { place with
      frames := frames, row := .group kind tree :: before, blanks := blanks, text := rest }
  | _ => none

/-- The place after a repetition of the latest tree; a question mark right behind marks it. -/
def repeatLast (place : Place) (low : Nat) (high : Option Nat) (rest : List Char) : Option Place :=
  match place.row with
  | [] => none
  | tree :: row =>
    if !tree.isRepeatable then none
    else
      match rest with
      | '?' :: rest => some { place with row := .repeated low high true tree :: row, text := rest }
      | rest => some { place with row := .repeated low high false tree :: row, text := rest }

/-- The place after the character `c`, where `rest` is the text behind it, and what it begins. -/
def step (place : Place) (c : Char) (rest : List Char) : Option Place :=
  if c = '(' then place.openGroup rest
  else if c = ')' then place.closeGroup rest
  else if c = '|' then some (place.branch rest)
  else if c = '[' then
    (readSet place.blanks rest).map fun (set, rest) =>
      place.push (match set with
        | .bracketed negated set => .bracketed negated set
        | set => .bracketed false set) rest
  else if c = '?' then place.repeatLast 0 (some 1) rest
  else if c = '*' then place.repeatLast 0 none rest
  else if c = '+' then place.repeatLast 1 none rest
  else if c = '{' then do
    let ((low, high), rest) ← readBounds place.blanks rest
    place.repeatLast low high (skip place.blanks rest)
  else if c = '\\' then
    (readEscape place.blanks rest).map fun (escape, rest) => place.push (.ofEscape escape) rest
  else if c = '.' then some (place.push .dot rest)
  else if c = '^' then some (place.push (.assertion .caret) rest)
  else if c = '$' then some (place.push (.assertion .dollar) rest)
  else some (place.push (.literal (.plain c)) rest)

/-- The tree of a pattern that ends within so many steps. -/
def finish : Nat → Place → Option Tree
  | bound, place =>
    match skip place.blanks place.text with
    | [] =>
      match place.settle with
      | (tree, []) => some tree
      | _ => none
    | c :: rest =>
      match bound with
      | 0 => none
      | bound + 1 =>
        match place.step c rest with
        | none => none
        | some next => finish bound next

end Place

/-- The tree of a pattern. Each step takes a character, so the length of the text bounds their
number. -/
def Tree.read? (pattern : List Char) : Option Tree :=
  Place.finish pattern.length ⟨[], [], false, 0, [], pattern⟩

end Specimen.Pattern
