set_option autoImplicit false

/-!
# Sources of random words

All chance comes from one stream of words of thirty-two bits. A source is the stream with a
position in it, and a draw is a step that may move the position on. A step that draws nothing leaves
the source as it was.

## Main definitions

* `Specimen.many` — a step of any kind taken so many times.
* `Specimen.Source` — a stream of words and a position.
* `Specimen.Draw` — a step that takes words from a source.
* `Specimen.Draw.word32`, `Specimen.Draw.word64` — the next word, and the next two as one.
* `Specimen.Source.cycle` — the source that repeats some words without end.
-/

namespace Specimen

/-- The results of a step taken so many times, whatever steps do. -/
def many {m : Type → Type} [Monad m] {α : Type} : Nat → m α → m (List α)
  | 0, _ => pure []
  | count + 1, step => do
    let first ← step
    let rest ← many count step
    pure (first :: rest)

/-- A stream of random words, read up to a position. -/
structure Source where
  /-- The stream. -/
  word : Nat → UInt32
  /-- How many words have been taken. -/
  position : Nat

instance : Inhabited Source := ⟨⟨fun _ => 0, 0⟩⟩

/-- A step that takes words from a source. -/
abbrev Draw := StateM Source

namespace Source

/-- The source that gives the listed words one after the other and starts again after the last. -/
def cycle (words : Array UInt32) : Source := ⟨fun n => words.getD (n % words.size) 0, 0⟩

end Source

namespace Draw

/-- The next word. -/
def word32 : Draw Nat := fun source =>
  ((source.word source.position).toNat, { source with position := source.position + 1 })

/-- The next two words as one, the first in the low half. -/
def word64 : Draw Nat := do
  let low ← word32
  let high ← word32
  pure (low + high * 0x100000000)

/-- The results of one step for each element of a list, in order. -/
def forEach {α β : Type} (step : α → Draw β) : List α → Draw (List β)
  | [] => pure []
  | x :: xs => do
    let first ← step x
    let rest ← forEach step xs
    pure (first :: rest)

end Draw

end Specimen
