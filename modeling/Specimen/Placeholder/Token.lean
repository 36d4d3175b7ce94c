import Specimen.Text.Blank
import Specimen.Text.Case
import Specimen.Text.Split
import Specimen.Integer

set_option autoImplicit false

/-!
# Tokens in texts

A token is an at sign with a name, perhaps followed by arguments in parentheses. A name begins with
an ASCII letter; it goes on with letters, digits and underscores, and with points that such a
character follows. The arguments end at the first closing parenthesis. Tokens are found from left to
right, and each is as long as possible.

## Main definitions

* `Specimen.Token` — a name with arguments.
* `Specimen.Token.at?` — the token that begins after an at sign.
* `Specimen.Token.whole?` — the token that a whole text is, blanks around it apart.
* `Specimen.Segment`, `Specimen.segments` — the tokens of a text and the characters around them.
-/

namespace Specimen

/-- A name with arguments, as written. -/
structure Token where
  /-- The name. -/
  name : List Char
  /-- What stands between the parentheses, when there are any. -/
  arguments : Option (List Char)
  deriving DecidableEq, Repr

namespace Token

/-- How a token is written. -/
def text (token : Token) : List Char :=
  match token.arguments with
  | none => '@' :: token.name
  | some arguments => '@' :: (token.name ++ '(' :: (arguments ++ [')']))

/-- A character of a name. -/
def isNameChar (c : Char) : Bool := Text.isAsciiLetter c || Integer.isDigit c || c == '_'

/-- The characters of a text that carry a name on. -/
def nameTail : List Char → List Char
  | '.' :: c :: rest => if isNameChar c then '.' :: c :: nameTail rest else []
  | c :: rest => if isNameChar c then c :: nameTail rest else []
  | [] => []

/-- The arguments at the front of a text. -/
def arguments? : List Char → Option (List Char)
  | '(' :: rest => (Text.cut? ')' rest).map Prod.fst
  | _ => none

/-- The token that begins after an at sign. -/
def at? : List Char → Option Token
  | [] => none
  | first :: rest =>
    if Text.isAsciiLetter first then
      let tail := nameTail rest
      some ⟨first :: tail, arguments? (rest.drop tail.length)⟩
    else none

/-- The token that a text is from its first character to its last. -/
def exactly? : List Char → Option Token
  | '@' :: rest => (at? rest).filter fun token => token.text = '@' :: rest
  | _ => none

/-- The token that a text is, blanks around it apart. -/
def whole? (text : List Char) : Option Token := exactly? (Text.trim text)

end Token

/-! ## Texts with tokens -/

/-- A part of a text. -/
inductive Segment where
  /-- A character outside tokens. -/
  | plain (c : Char)
  /-- A token. -/
  | token (found : Token)
  deriving DecidableEq, Repr

/-- How a segment is written. -/
def Segment.text : Segment → List Char
  | .plain c => [c]
  | .token found => found.text

/-- The segments of a text, from left to right; so many characters belong to the token before. -/
def segmentsFrom : Nat → List Char → List Segment
  | _, [] => []
  | taken + 1, _ :: rest => segmentsFrom taken rest
  | 0, c :: rest =>
    match if c = '@' then Token.at? rest else none with
    | some found => .token found :: segmentsFrom (found.text.length - 1) rest
    | none => .plain c :: segmentsFrom 0 rest

/-- The segments of a text. -/
def segments (text : List Char) : List Segment := segmentsFrom 0 text

end Specimen
