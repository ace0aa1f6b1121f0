/-! The ChaCha stream with eight rounds, as words of 64 bits.

A block of sixteen words of 32 bits is held as four rows, so that a round works on whole rows: once
on the columns, and once on the diagonals, which turning the rows makes into columns. -/

namespace ModemRelay.Random

/-- Four words of a block. -/
structure Row where
  (w x y z : UInt32)
  deriving DecidableEq

namespace Row

def add (r s : Row) : Row := ⟨r.w + s.w, r.x + s.x, r.y + s.y, r.z + s.z⟩

def xor (r s : Row) : Row := ⟨r.w ^^^ s.w, r.x ^^^ s.x, r.y ^^^ s.y, r.z ^^^ s.z⟩

/-- A word with its bits moved up by `n`, those that fall off coming back below. -/
def rotateWord (n : UInt32) (v : UInt32) : UInt32 := (v <<< n) ||| (v >>> (32 - n))

def rotate (n : UInt32) (r : Row) : Row :=
  ⟨rotateWord n r.w, rotateWord n r.x, rotateWord n r.y, rotateWord n r.z⟩

/-- Moves each word one place to the front, and the first to the end. -/
def turn (r : Row) : Row := ⟨r.x, r.y, r.z, r.w⟩

end Row

/-- Sixteen words in four rows. -/
structure Block where
  (a b c d : Row)
  deriving DecidableEq

namespace Block

/-- Mixes the four columns. -/
def mix (s : Block) : Block :=
  let a := s.a.add s.b
  let d := (s.d.xor a).rotate 16
  let c := s.c.add d
  let b := (s.b.xor c).rotate 12
  let a := a.add b
  let d := (d.xor a).rotate 8
  let c := c.add d
  let b := (b.xor c).rotate 7
  ⟨a, b, c, d⟩

/-- Mixes the columns and then the diagonals. -/
def doubleRound (s : Block) : Block :=
  let s := s.mix
  let s := mix ⟨s.a, s.b.turn, s.c.turn.turn, s.d.turn.turn.turn⟩
  ⟨s.a, s.b.turn.turn.turn, s.c.turn.turn, s.d.turn⟩

/-- The block of the stream that a starting block leads to. -/
def scramble (s : Block) : Block :=
  let t := s.doubleRound.doubleRound.doubleRound.doubleRound
  ⟨s.a.add t.a, s.b.add t.b, s.c.add t.c, s.d.add t.d⟩

/-- Two words as one, the low half first. -/
def join (low high : UInt32) : UInt64 := low.toUInt64 ||| (high.toUInt64 <<< 32)

/-- The eight double words of a block, in order. -/
def words (s : Block) : List UInt64 :=
  [s.a, s.b, s.c, s.d].flatMap fun r => [join r.w r.x, join r.y r.z]

end Block

/-- The 256-bit key of the stream. -/
structure Key where
  (low high : Row)
  deriving DecidableEq

/-- The state after a step of the congruential generator that spreads a seed. -/
def spread (state : UInt64) : UInt64 := state * 6364136223846793005 + 11634580027462260723

/-- The output of the generator: the state's top bits folded in and rotated by the topmost. -/
def output (state : UInt64) : UInt32 :=
  let folded := (((state >>> 18) ^^^ state) >>> 27).toUInt32
  let amount := (state >>> 59).toUInt32
  Row.rotateWord (32 - amount) folded

/-- Four outputs in a row, and the state after them. -/
def spreadRow (state : UInt64) : Row × UInt64 :=
  let s₁ := spread state
  let s₂ := spread s₁
  let s₃ := spread s₂
  let s₄ := spread s₃
  (⟨output s₁, output s₂, output s₃, output s₄⟩, s₄)

/-- The key that a seed is spread to. -/
def Key.ofSeed (seed : UInt64) : Key :=
  let (low, state) := spreadRow seed
  ⟨low, (spreadRow state).1⟩

/-- The starting block of a key and a position in the stream. -/
def Key.block (key : Key) (counter : UInt64) : Block where
  a := ⟨0x61707865, 0x3320646e, 0x79622d32, 0x6b206574⟩
  b := key.low
  c := key.high
  d := ⟨counter.toUInt32, (counter >>> 32).toUInt32, 0, 0⟩

/-- The double word of a key's stream at a position. -/
def Key.word (key : Key) (position : Nat) : UInt64 :=
  ((key.block (.ofNat (position / 8))).scramble.words[position % 8]?).getD 0

end ModemRelay.Random
