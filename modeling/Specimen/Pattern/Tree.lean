import Specimen.Text.CodeSet

set_option autoImplicit false

/-!
# Trees of patterns

A pattern is a tree: groups, branches, repetitions, sets in brackets and escapes, as they are
written. How deep a tree may be is limited.

## Main definitions

* `Specimen.Pattern.Literal`, `Specimen.Pattern.Shorthand`, `Specimen.Pattern.PosixName`,
  `Specimen.Pattern.PropertyQuery`, `Specimen.Pattern.Assertion` — what has no parts.
* `Specimen.Pattern.SetTree` — what stands in brackets.
* `Specimen.Pattern.Flag`, `Specimen.Pattern.Switches` — the flags, and changes of them.
* `Specimen.Pattern.Tree` — patterns.
* `Specimen.Pattern.Tree.depth` — how deep a tree is.
-/

namespace Specimen.Pattern

/-! ## Leaves -/

/-- A character. -/
structure Literal where
  /-- The character. -/
  char : Char
  /-- It is written with the two hexadecimal digits of a byte. -/
  isByte : Bool
  deriving DecidableEq, Repr

/-- A character that stands for itself. -/
def Literal.plain (c : Char) : Literal := ⟨c, false⟩

/-- The sets with a letter of their own. -/
inductive Shorthand where
  /-- Decimal digits. -/
  | digit
  /-- Blanks. -/
  | blank
  /-- Characters of words. -/
  | word
  deriving DecidableEq, Repr

/-- The sets of ASCII characters with a name. -/
inductive PosixName where
  /-- Letters and digits. -/
  | alnum
  /-- Letters. -/
  | alpha
  /-- All characters. -/
  | ascii
  /-- The blank and the tabulator. -/
  | blank
  /-- Control characters. -/
  | cntrl
  /-- Digits. -/
  | digit
  /-- Characters that show. -/
  | graph
  /-- Small letters. -/
  | lower
  /-- Characters that show, and the blank. -/
  | print
  /-- Punctuation. -/
  | punct
  /-- Blanks and ends of lines. -/
  | space
  /-- Capital letters. -/
  | upper
  /-- Letters, digits and the underscore. -/
  | word
  /-- Hexadecimal digits. -/
  | xdigit
  deriving DecidableEq, Repr

/-- What is asked about a character. -/
inductive PropertyQuery where
  /-- It has the property, or is in the category or the script, of a name. -/
  | named (name : List Char)
  /-- A property has a value. -/
  | valued (property value : List Char)
  deriving DecidableEq, Repr

/-- A position, as it is written. -/
inductive Assertion where
  /-- The start of the text, or of a line. -/
  | caret
  /-- The end of the text, or of a line. -/
  | dollar
  /-- The start of the text. -/
  | textStart
  /-- The end of the text. -/
  | textEnd
  /-- The edge of a word. -/
  | edge
  /-- Anything but the edge of a word. -/
  | noEdge
  /-- The start of a word; the half of it looks to one side only. -/
  | wordStart (half : Bool)
  /-- The end of a word. -/
  | wordEnd (half : Bool)
  deriving DecidableEq, Repr

/-- What an escape stands for. -/
inductive Escape where
  /-- A character. -/
  | literal (literal : Literal)
  /-- A set with a letter of its own, or what is not in it. -/
  | shorthand (kind : Shorthand) (negated : Bool)
  /-- The characters for which a query is answered by yes, or by no. -/
  | property (query : PropertyQuery) (negated : Bool)
  /-- A position. -/
  | assertion (assertion : Assertion)
  deriving DecidableEq, Repr

/-! ## Sets in brackets -/

/-- What two sets are put together by. -/
inductive SetOperator where
  /-- What they have in common. -/
  | intersection
  /-- What is in the first only. -/
  | difference
  /-- What is in one of them only. -/
  | symmetricDifference
  deriving DecidableEq, Repr

/-- A set as it is written in brackets. -/
inductive SetTree where
  /-- One character. -/
  | literal (literal : Literal)
  /-- The characters from one to another. -/
  | range (low high : Literal)
  /-- A named set of ASCII characters, or what is not in it. -/
  | posix (name : PosixName) (negated : Bool)
  /-- A set with a letter of its own, or what is not in it. -/
  | shorthand (kind : Shorthand) (negated : Bool)
  /-- The characters for which a query is answered by yes, or by no. -/
  | property (query : PropertyQuery) (negated : Bool)
  /-- A set in brackets of its own, or what is not in it. -/
  | bracketed (negated : Bool) (set : SetTree)
  /-- What is in some of several sets. -/
  | union (items : List SetTree)
  /-- Two sets put together. -/
  | operation (operator : SetOperator) (left right : SetTree)

namespace SetTree

mutual

/-- How deep a set is. -/
def depth : SetTree → Nat
  | .bracketed _ set => depth set + 1
  | .union [] => 0
  | .union items => depthOfAll items + 1
  | .operation _ left right => max (depth left) (depth right) + 1
  | _ => 0

/-- How deep the deepest of several sets is. -/
def depthOfAll : List SetTree → Nat
  | [] => 0
  | item :: items => max (depth item) (depthOfAll items)

end

/-- The union of sets; one set is its own union. -/
def ofItems : List SetTree → SetTree
  | [item] => item
  | items => .union items

end SetTree

/-! ## Flags -/

/-- The flags. -/
inductive Flag where
  /-- Capital and small letters are the same. -/
  | ignoreCase
  /-- Lines have starts and ends. -/
  | multiLine
  /-- A dot stands for the end of a line, too. -/
  | dotMatchesLine
  /-- Repetitions are short unless they are marked. -/
  | swapGreed
  /-- Characters are those of all scripts. -/
  | unicode
  /-- A carriage return may end lines. -/
  | carriageReturn
  /-- Blanks and comments do not count. -/
  | ignoreBlanks
  deriving DecidableEq, Repr

/-- The flags that are switched on, and those that are switched off. -/
structure Switches where
  /-- Switched on. -/
  on : List Flag
  /-- Switched off. -/
  off : List Flag
  deriving DecidableEq, Repr

/-- A flag after switching. -/
def Switches.after (switches : Switches) (flag : Flag) (before : Bool) : Bool :=
  if flag ∈ switches.on then true else if flag ∈ switches.off then false else before

/-! ## Patterns -/

/-- What a parenthesis opens. -/
inductive GroupKind where
  /-- A group with a number. -/
  | numbered (index : Nat)
  /-- A group with switches, which hold in it. -/
  | switched (switches : Switches)
  deriving DecidableEq, Repr

/-- A pattern as it is written. -/
inductive Tree where
  /-- Nothing. -/
  | empty
  /-- Switches, which hold to the end of the group. -/
  | switches (switches : Switches)
  /-- A character. -/
  | literal (literal : Literal)
  /-- Any character. -/
  | dot
  /-- A position. -/
  | assertion (assertion : Assertion)
  /-- A set with a letter of its own, or what is not in it. -/
  | shorthand (kind : Shorthand) (negated : Bool)
  /-- The characters for which a query is answered by yes, or by no. -/
  | property (query : PropertyQuery) (negated : Bool)
  /-- A set in brackets, or what is not in it. -/
  | bracketed (negated : Bool) (set : SetTree)
  /-- A repetition from so often to so often, or more often; a marked one is short. -/
  | repeated (low : Nat) (high : Option Nat) (short : Bool) (sub : Tree)
  /-- A group. -/
  | group (kind : GroupKind) (sub : Tree)
  /-- Patterns one after the other. -/
  | row (subs : List Tree)
  /-- One of several patterns. -/
  | choice (subs : List Tree)

namespace Tree

mutual

/-- How deep a tree is. -/
def depth : Tree → Nat
  | .bracketed _ set => set.depth + 1
  | .repeated _ _ _ sub => depth sub + 1
  | .group _ sub => depth sub + 1
  | .row subs => depthOfAll subs + 1
  | .choice subs => depthOfAll subs + 1
  | _ => 0

/-- How deep the deepest of several trees is. -/
def depthOfAll : List Tree → Nat
  | [] => 0
  | sub :: subs => max (depth sub) (depthOfAll subs)

end

/-- How deep a tree may be. -/
def depthLimit : Nat := 250

/-- Trees one after the other; one tree is its own row. -/
def inRow : List Tree → Tree
  | [] => .empty
  | [sub] => sub
  | subs => .row subs

/-- One of several trees; one tree is its own choice. -/
def oneOf : List Tree → Tree
  | [] => .empty
  | [sub] => sub
  | subs => .choice subs

/-- What an escape stands for outside brackets. -/
def ofEscape : Escape → Tree
  | .literal l => .literal l
  | .shorthand kind negated => .shorthand kind negated
  | .property query negated => .property query negated
  | .assertion position => .assertion position

/-- The tree can be repeated: it is neither nothing nor a switch. -/
def isRepeatable : Tree → Bool
  | .empty => false
  | .switches _ => false
  | _ => true

end Tree

end Specimen.Pattern
