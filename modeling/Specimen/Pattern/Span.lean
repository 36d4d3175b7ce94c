import Specimen.Pattern.Meaning
import Specimen.Pattern.Synthesis

set_option autoImplicit false

/-!
# Patterns in texts

A pattern stands in a text between two slashes on one line. It has at least one character, the first
of which may be a slash itself. Spans are found from left to right and do not overlap; a span whose
pattern is not well formed stays as it is.

## Main definitions

* `Specimen.Pattern.Piece` — a character of a text, or a span.
* `Specimen.Pattern.pieces` — the pieces of a text.
* `Specimen.Pattern.expandBy` — the text with its patterns replaced, given which are well formed.
* `Specimen.Pattern.expand` — the text with its patterns replaced.
-/

namespace Specimen.Pattern

/-- A part of a text. -/
inductive Piece where
  /-- A character outside spans. -/
  | plain (c : Char)
  /-- A pattern between slashes. -/
  | span (pattern : List Char)
  deriving DecidableEq, Repr

/-- How a piece is written. -/
def Piece.text : Piece → List Char
  | .plain c => [c]
  | .span pattern => '/' :: (pattern ++ ['/'])

/-- The pattern that begins after a slash, when another slash ends it on the same line. -/
def pattern? : List Char → Option (List Char)
  | [] => none
  | first :: rest =>
    match Text.cut? '/' rest with
    | some (more, _) => if '\n' ∈ first :: more then none else some (first :: more)
    | none => none

/-- The pieces of a text, from left to right; so many characters belong to the span before. -/
def piecesFrom : Nat → List Char → List Piece
  | _, [] => []
  | taken + 1, _ :: rest => piecesFrom taken rest
  | 0, c :: rest =>
    match if c = '/' then pattern? rest else none with
    | some pattern => .span pattern :: piecesFrom (pattern.length + 1) rest
    | none => .plain c :: piecesFrom 0 rest

/-- The pieces of a text. -/
def pieces (text : List Char) : List Piece := piecesFrom 0 text

/-- What takes the place of a piece, when some patterns only are well formed. -/
def expandPiece (wellFormed : List Char → Bool) : Piece → Draw (List Char)
  | .plain c => pure [c]
  | .span pattern =>
    if wellFormed pattern then synthesize pattern else pure (Piece.span pattern).text

/-- The text with the patterns replaced that are well formed. -/
def expandBy (wellFormed : List Char → Bool) (text : List Char) : Draw (List Char) := do
  let parts ← Draw.forEach (expandPiece wellFormed) (pieces text)
  pure parts.flatten

/-- The text with its patterns replaced. -/
def expand (text : List Char) : Draw (List Char) := expandBy isWellFormed text

end Specimen.Pattern
