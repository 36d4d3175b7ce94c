import Specimen.Integer

set_option autoImplicit false

/-!
# Quoted texts of TOML

A text stands between double quotes, where a backslash begins an escape, or between single quotes,
where every character stands for itself. Three quotes open a text that may have several lines; a new
line right after them does not count, and up to two quotes may stand directly before the three that
close it.

## Main definitions

* `Specimen.Toml.Quoting` — the four ways of quoting.
* `Specimen.Toml.Quoting.readBody` — the rest of a text after its opening quotes.
* `Specimen.Toml.readQuoted` — a quoted text at the front of a text.
-/

namespace Specimen.Toml

/-! ## Characters and lines -/

/-- A blank within a line. -/
def isBlank (c : Char) : Bool := c == ' ' || c == '\t'

/-- The text without leading blanks. -/
def skipBlanks (text : List Char) : List Char := text.dropWhile isBlank

/-- A character that may stand in a line: no control character but the tabulator. -/
def isPlain (c : Char) : Bool := c == '\t' || (0x20 ≤ c.toNat && c.toNat ≠ 0x7F)

/-- The text after the end of a line, which the end of the text also is. -/
def endLine : List Char → Option (List Char)
  | [] => some []
  | '\n' :: rest => some rest
  | '\r' :: '\n' :: rest => some rest
  | _ => none

/-! ## Escapes -/

/-- The character of a code in hexadecimal digits. -/
def ofCode? (digits : List Char) : Option Char := do
  let code ← Integer.ofBase? 16 digits
  if code.isValidChar then some (Char.ofNat code) else none

/-- The character of an escape with a code of so many digits. -/
def readCode (count : Nat) (text : List Char) : Option (List Char × List Char) :=
  if text.length < count then none
  else (ofCode? (text.take count)).map fun c => ([c], text.drop count)

/-- The text without leading blanks and ends of lines. -/
def skipGap : List Char → List Char
  | [] => []
  | '\r' :: '\n' :: rest => skipGap rest
  | c :: rest => if isBlank c || c == '\n' then skipGap rest else c :: rest

/-- The character of an escape letter. -/
def escapeLetter? (c : Char) : Option Char :=
  if c = '"' then some '"'
  else if c = '\\' then some '\\'
  else if c = 'b' then some '\x08'
  else if c = 'f' then some '\x0c'
  else if c = 'n' then some '\n'
  else if c = 'r' then some '\r'
  else if c = 't' then some '\t'
  else none

/-- What an escape stands for, after its backslash. In a text of several lines an escaped end of
line stands for nothing, together with the blanks around it. -/
def readEscape (long : Bool) : List Char → Option (List Char × List Char)
  | [] => none
  | 'u' :: rest => readCode 4 rest
  | 'U' :: rest => readCode 8 rest
  | c :: rest =>
    match escapeLetter? c with
    | some escaped => some ([escaped], rest)
    | none =>
      if long then (endLine (skipBlanks (c :: rest))).map fun rest => ([], skipGap rest) else none

/-! ## Quoted texts -/

/-- A way of quoting. -/
structure Quoting where
  /-- The quote. -/
  quote : Char
  /-- A backslash begins an escape. -/
  escapes : Bool
  /-- Three quotes open and close the text, which may have several lines. -/
  long : Bool
  deriving DecidableEq, Repr

namespace Quoting

/-- What the first character of a text, or the escape that it begins, stands for. -/
def readPiece (quoting : Quoting) : List Char → Option (List Char × List Char)
  | [] => none
  | c :: rest =>
    if quoting.escapes ∧ c = '\\' then readEscape quoting.long rest
    else if isPlain c then some ([c], rest)
    else if quoting.long then (endLine (c :: rest)).map fun rest => (['\n'], rest)
    else none

/-- The rest of a text after its opening quotes. Every piece takes at least one character, so the
length of the text bounds their number. -/
def readBody (quoting : Quoting) : Nat → List Char → Option (List Char × List Char)
  | 0, _ => none
  | bound + 1, text =>
    let quotes := text.takeWhile (· == quoting.quote)
    if quotes = [] then do
      let (piece, rest) ← quoting.readPiece text
      let (body, rest) ← readBody quoting bound rest
      some (piece ++ body, rest)
    else if !quoting.long then some ([], text.drop 1)
    else if quotes.length < 3 then do
      let (body, rest) ← readBody quoting bound (text.drop quotes.length)
      some (quotes ++ body, rest)
    else if quotes.length ≤ 5 then some (quotes.drop 3, text.drop quotes.length)
    else none

/-- A text after its opening quotes. -/
def read (quoting : Quoting) (text : List Char) : Option (List Char × List Char) :=
  let body := if quoting.long then (if text = [] then none else endLine text).getD text else text
  quoting.readBody (body.length + 1) body

end Quoting

/-- A text in a single line that is quoted at the front of a text. -/
def readShort : List Char → Option (List Char × List Char)
  | '"' :: rest => Quoting.read ⟨'"', true, false⟩ rest
  | '\'' :: rest => Quoting.read ⟨'\'', false, false⟩ rest
  | _ => none

/-- A text that is quoted at the front of a text. -/
def readQuoted : List Char → Option (List Char × List Char)
  | '"' :: '"' :: '"' :: rest => Quoting.read ⟨'"', true, true⟩ rest
  | '\'' :: '\'' :: '\'' :: rest => Quoting.read ⟨'\'', false, true⟩ rest
  | text => readShort text

end Specimen.Toml
