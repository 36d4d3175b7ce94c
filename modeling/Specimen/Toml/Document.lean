import Specimen.Toml.Text
import Specimen.Toml.Value

set_option autoImplicit false

/-!
# Documents of TOML

A document is a sequence of lines, each of them blank, a comment, a header in brackets that names a
table, or an entry with a name and a value. The names of tables stand before that of an entry, with
dots between them; an entry is in the table of the latest header. Numbers with fractions, times,
truth values, lists with members and lists of tables are not read.

## Main definitions

* `Specimen.Toml.readInteger?` — the integer that a token writes.
* `Specimen.Toml.readValue` — a value at the front of a text.
* `Specimen.Toml.read?` — the entries of a document.
-/

namespace Specimen.Toml

/-! ## Integers -/

/-- The number that digits of a base write; an underscore may stand between two digits. -/
def readNatural? (base : Nat) (token : List Char) : Option Nat :=
  let groups := token.splitOn '_'
  if groups.any List.isEmpty then none else Integer.ofBase? base groups.flatten

/-- A decimal number without sign: no zero before other digits. -/
def readDecimal? (token : List Char) : Option Nat :=
  if token.head? = some '0' ∧ token ≠ ['0'] then none else readNatural? 10 token

/-- A number with a sign, or with a mark of its base. -/
def readSigned? : List Char → Option Int
  | '0' :: 'x' :: rest => Int.ofNat <$> readNatural? 16 rest
  | '0' :: 'o' :: rest => Int.ofNat <$> readNatural? 8 rest
  | '0' :: 'b' :: rest => Int.ofNat <$> readNatural? 2 rest
  | '-' :: rest => (fun n : Nat => -(n : Int)) <$> readDecimal? rest
  | '+' :: rest => Int.ofNat <$> readDecimal? rest
  | token => Int.ofNat <$> readDecimal? token

/-- The integer that a token writes, when sixty-four signed bits can hold it. -/
def readInteger? (token : List Char) : Option Int := (readSigned? token).bind Integer.check?

/-! ## Blanks and names -/

/-- The text without leading blanks, ends of lines and comments; perhaps it begins in a comment. -/
def skipLines : Bool → List Char → List Char
  | _, [] => []
  | _, '\n' :: rest => skipLines false rest
  | _, '\r' :: '\n' :: rest => skipLines false rest
  | comment, c :: rest =>
    if comment && isPlain c then skipLines true rest
    else if comment then c :: rest
    else if isBlank c then skipLines false rest
    else if c = '#' then skipLines true rest
    else c :: rest

/-- The text after the end of a line, before which only blanks and a comment may stand. -/
def finishLine (text : List Char) : Option (List Char) :=
  match skipBlanks text with
  | '#' :: rest => endLine (rest.dropWhile isPlain)
  | rest => endLine rest

/-- A character of a name without quotes. -/
def isNameChar (c : Char) : Bool :=
  ('a' ≤ c && c ≤ 'z') || ('A' ≤ c && c ≤ 'Z') || Integer.isDigit c || c == '_' || c == '-'

/-- A name at the front of a text, with quotes or without. -/
def readName (text : List Char) : Option (List Char × List Char) :=
  let name := text.takeWhile isNameChar
  if name = [] then readShort text else some (name, text.dropWhile isNameChar)

/-- Names with dots between them, so many at most: those before the last one, the last one, and the
text after the blanks behind it. -/
def readPath : Nat → List Char → Option ((List String × String) × List Char)
  | 0, _ => none
  | bound + 1, text => do
    let (name, rest) ← readName (skipBlanks text)
    match skipBlanks rest with
    | '.' :: rest => do
      let ((path, last), rest) ← readPath bound rest
      some ((String.ofList name :: path, last), rest)
    | rest => some (([], String.ofList name), rest)

/-! ## Values -/

/-- A character of a token without quotes. -/
def isTokenChar (c : Char) : Bool := isNameChar c || c == '+'

/-- An integer or a text at the front of a text. -/
def readScalar (text : List Char) : Option (Value × List Char) :=
  match readInteger? (text.takeWhile isTokenChar) with
  | some n => some (.integer n, text.dropWhile isTokenChar)
  | none => (readQuoted text).map fun (body, rest) => (.text (String.ofList body), rest)

/-- A table with one more entry behind a path. -/
def addBehind? (path : List String) (name : String) (value : Value) : Value → Option Value :=
  Value.modify? .dotted (Value.addEntry? (!path.isEmpty) name value) path

mutual

/-- A value at the front of a text. A value within another one stands behind its opening brace, so
the length of the text bounds how deep they are. -/
def readValue : Nat → List Char → Option (Value × List Char)
  | 0, _ => none
  | _ + 1, '[' :: rest =>
    match skipLines false rest with
    | ']' :: rest => some (.emptyList, rest)
    | _ => none
  | bound + 1, '{' :: rest =>
    match skipBlanks rest with
    | '}' :: rest => some (.table .braces [], rest)
    | rest => readMembers bound (.table .braces []) rest
  | _ + 1, text => readScalar text

/-- The entries at the front of a text up to a closing brace, added to a table. -/
def readMembers : Nat → Value → List Char → Option (Value × List Char)
  | 0, _, _ => none
  | bound + 1, table, text => do
    let ((path, name), rest) ← readPath text.length text
    match rest with
    | '=' :: rest => do
      let (value, rest) ← readValue bound (skipBlanks rest)
      let table ← addBehind? path name value table
      match skipBlanks rest with
      | ',' :: rest => readMembers bound table rest
      | '}' :: rest => some (table, rest)
      | _ => none
    | _ => none

end

/-! ## Documents -/

/-- A document so far. -/
structure Draft where
  /-- The table of the document. -/
  root : Value
  /-- The path of the latest header. -/
  path : List String

namespace Draft

/-- The document after a header; the text begins after the opening bracket. -/
def readHeader (draft : Draft) (text : List Char) : Option (Draft × List Char) := do
  let ((path, name), rest) ← readPath text.length text
  match rest with
  | ']' :: rest =>
    let root ← draft.root.modify? .parent (Value.addTable? name) path
    some (⟨root, path ++ [name]⟩, ← finishLine rest)
  | _ => none

/-- The document after an entry. -/
def readEntry (draft : Draft) (text : List Char) : Option (Draft × List Char) := do
  let ((path, name), rest) ← readPath text.length text
  match rest with
  | '=' :: rest =>
    let (value, rest) ← readValue (rest.length + 1) (skipBlanks rest)
    let root ← draft.root.modify? .parent (addBehind? path name value) draft.path
    some (⟨root, draft.path⟩, ← finishLine rest)
  | _ => none

/-- The document after the lines of a text. A line takes at least one character, so the length of
the text bounds their number. -/
def readLines : Nat → Draft → List Char → Option Draft
  | _, draft, [] => some draft
  | 0, _, _ => none
  | bound + 1, draft, text =>
    match finishLine text with
    | some rest => readLines bound draft rest
    | none => do
      let (draft, rest) ←
        match skipBlanks text with
        | '[' :: rest => draft.readHeader rest
        | rest => draft.readEntry rest
      readLines bound draft rest

end Draft

/-- The text without a byte order mark in front. -/
def skipMark : List Char → List Char
  | '\uFEFF' :: rest => rest
  | text => text

/-- The entries of a document. -/
def read? (text : String) : Option (Dictionary Value) :=
  let lines := skipMark text.toList
  (Draft.readLines lines.length ⟨.root, []⟩ lines).map fun draft => draft.root.entries

end Specimen.Toml
