import Specimen.Random.Source

set_option autoImplicit false

/-!
# Seeded sources

A seed is spread over the eight words of a key by a linear congruential generator with a permuted
output, and the key drives the ChaCha stream cipher with eight rounds. The words of its blocks, one
after the other, are the stream.

The state of a block is held as four rows of four words. A round works on all four columns at once,
so it is the quarter round on rows; a diagonal round is the same between two rotations of the rows.

## Main definitions

* `Specimen.ChaCha.Row`, `Specimen.ChaCha.Rows` — a quarter of the state, and the state.
* `Specimen.ChaCha.doubleRound` — a column round and a diagonal round.
* `Specimen.ChaCha.block` — the words of a block of the stream.
* `Specimen.ChaCha.keyOfSeed` — the key of a seed.
* `Specimen.Source.seeded` — the source of a seed.
-/

namespace Specimen

namespace ChaCha

/-! ## Rows -/

/-- Four words side by side. -/
structure Row where
  /-- The first word. -/
  a : UInt32
  /-- The second word. -/
  b : UInt32
  /-- The third word. -/
  c : UInt32
  /-- The fourth word. -/
  d : UInt32

namespace Row

/-- Sums word by word. -/
def add (x y : Row) : Row := ⟨x.a + y.a, x.b + y.b, x.c + y.c, x.d + y.d⟩

/-- A word with its bits turned to the left. -/
def turn (n : UInt32) (x : UInt32) : UInt32 := (x <<< n) ||| (x >>> (32 - n))

/-- Bitwise differences word by word, each turned to the left. -/
def xorTurn (n : UInt32) (x y : Row) : Row :=
  ⟨turn n (x.a ^^^ y.a), turn n (x.b ^^^ y.b), turn n (x.c ^^^ y.c), turn n (x.d ^^^ y.d)⟩

/-- The words moved one place to the left. -/
def rotate1 (x : Row) : Row := ⟨x.b, x.c, x.d, x.a⟩

/-- The words moved two places to the left. -/
def rotate2 (x : Row) : Row := ⟨x.c, x.d, x.a, x.b⟩

/-- The words moved three places to the left. -/
def rotate3 (x : Row) : Row := ⟨x.d, x.a, x.b, x.c⟩

/-- The words in order. -/
def toList (x : Row) : List UInt32 := [x.a, x.b, x.c, x.d]

end Row

/-! ## Rounds -/

/-- The state of a block. -/
structure Rows where
  /-- The first row. -/
  p : Row
  /-- The second row. -/
  q : Row
  /-- The third row. -/
  r : Row
  /-- The fourth row. -/
  s : Row

/-- A quarter round on every column. -/
def columnRound (x : Rows) : Rows :=
  let p := x.p.add x.q
  let s := Row.xorTurn 16 x.s p
  let r := x.r.add s
  let q := Row.xorTurn 12 x.q r
  let p := p.add q
  let s := Row.xorTurn 8 s p
  let r := r.add s
  let q := Row.xorTurn 7 q r
  ⟨p, q, r, s⟩

/-- A column round followed by a diagonal round. -/
def doubleRound (x : Rows) : Rows :=
  let x := columnRound x
  let x := columnRound ⟨x.p, x.q.rotate1, x.r.rotate2, x.s.rotate3⟩
  ⟨x.p, x.q.rotate3, x.r.rotate2, x.s.rotate1⟩

/-- The first row of every block. -/
def constants : Row := ⟨0x61707865, 0x3320646e, 0x79622d32, 0x6b206574⟩

/-- The words of block `n` under a key given as two rows: four double rounds, and the state at the
start added on top. -/
def block (key : Row × Row) (n : Nat) : Array UInt32 :=
  let counter : Row := ⟨n.toUInt32, (n / 0x100000000).toUInt32, 0, 0⟩
  let start : Rows := ⟨constants, key.1, key.2, counter⟩
  let x := doubleRound (doubleRound (doubleRound (doubleRound start)))
  ((x.p.add start.p).toList ++ (x.q.add start.q).toList ++ (x.r.add start.r).toList ++
    (x.s.add start.s).toList).toArray

/-! ## Seeds -/

/-- The next state of the generator that spreads a seed. -/
def spreadState (state : UInt64) : UInt64 := state * 6364136223846793005 + 11634580027462260723

/-- The word that a state of the generator gives. -/
def spreadWord (state : UInt64) : UInt32 :=
  let mixed := (((state >>> 18) ^^^ state) >>> 27).toUInt32
  let turns := (state >>> 59).toUInt32
  (mixed >>> turns) ||| (mixed <<< ((32 - turns) % 32))

/-- The next four words of the generator, and its state after them. -/
def spreadRow (state : UInt64) : Row × UInt64 :=
  let s1 := spreadState state
  let s2 := spreadState s1
  let s3 := spreadState s2
  let s4 := spreadState s3
  (⟨spreadWord s1, spreadWord s2, spreadWord s3, spreadWord s4⟩, s4)

/-- The key of a seed. -/
def keyOfSeed (seed : UInt64) : Row × Row :=
  let (first, state) := spreadRow seed
  (first, (spreadRow state).1)

end ChaCha

/-- The source of a seed. -/
def Source.seeded (seed : UInt64) : Source :=
  let key := ChaCha.keyOfSeed seed
  ⟨fun n => (ChaCha.block key (n / 16)).getD (n % 16) 0, 0⟩

end Specimen
