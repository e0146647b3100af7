/-!
# A stream of random words

The words come in blocks of sixteen, which are made from a key and the number of the block by twelve
rounds of mixing. The key is made from a seed. `Stream.next` gives the words one after the other,
and the same seed gives the same words.
-/

namespace RobotScript.Random

/-- Four words that are mixed side by side. -/
structure Quad where
  a : UInt32
  b : UInt32
  c : UInt32
  d : UInt32
deriving DecidableEq, Repr

namespace Quad

/-- The two quads combined word by word. -/
def zip (f : UInt32 → UInt32 → UInt32) (x y : Quad) : Quad :=
  ⟨f x.a y.a, f x.b y.b, f x.c y.c, f x.d y.d⟩

/-- A word with its bits moved to the left, those that fall out coming in at the right. -/
def rotateWord (bits word : UInt32) : UInt32 :=
  word <<< bits ||| word >>> (32 - bits)

/-- The quad with the bits of each word rotated. -/
def rotateBits (bits : UInt32) (x : Quad) : Quad :=
  ⟨rotateWord bits x.a, rotateWord bits x.b, rotateWord bits x.c, rotateWord bits x.d⟩

/-- The quad with its words moved to the left by one. -/
def turn (x : Quad) : Quad :=
  ⟨x.b, x.c, x.d, x.a⟩

/-- The words in order. -/
def words (x : Quad) : List UInt32 :=
  [x.a, x.b, x.c, x.d]

end Quad

/-- Sixteen words, in four rows. -/
structure Block where
  first : Quad
  second : Quad
  third : Quad
  fourth : Quad
deriving DecidableEq, Repr

namespace Block

/-- The two blocks added word by word. -/
def add (x y : Block) : Block :=
  ⟨x.first.zip (· + ·) y.first, x.second.zip (· + ·) y.second, x.third.zip (· + ·) y.third,
    x.fourth.zip (· + ·) y.fourth⟩

/-- One half of the mixing of the four columns, with the two rotations given. -/
def stir (fourthBits secondBits : UInt32) (x : Block) : Block :=
  let first := x.first.zip (· + ·) x.second
  let fourth := (x.fourth.zip (· ^^^ ·) first).rotateBits fourthBits
  let third := x.third.zip (· + ·) fourth
  let second := (x.second.zip (· ^^^ ·) third).rotateBits secondBits
  ⟨first, second, third, fourth⟩

/-- A round: the four columns are mixed. -/
def round (x : Block) : Block :=
  (x.stir 16 12).stir 8 7

/-- Two rounds: the columns are mixed, then the diagonals, which are turned into columns and
back. -/
def doubleRound (x : Block) : Block :=
  let columns := x.round
  let diagonals : Block :=
    ⟨columns.first, columns.second.turn, columns.third.turn.turn, columns.fourth.turn.turn.turn⟩
  let mixed := diagonals.round
  ⟨mixed.first, mixed.second.turn.turn.turn, mixed.third.turn.turn, mixed.fourth.turn⟩

/-- The words in order. -/
def words (x : Block) : List UInt32 :=
  x.first.words ++ x.second.words ++ x.third.words ++ x.fourth.words

end Block

/-- Eight words from which the stream is made. -/
structure Key where
  low : Quad
  high : Quad
deriving DecidableEq, Repr

/-- The next state of the generator that spreads a seed over a key. -/
def spread (state : UInt64) : UInt64 :=
  state * 6364136223846793005 + 11634580027462260723

/-- The word of a key that a state of that generator gives. -/
def spreadWord (state : UInt64) : UInt32 :=
  let mixed : UInt32 := (((state >>> 18) ^^^ state) >>> 27).toUInt32
  let turns : UInt32 := (state >>> 59).toUInt32
  Quad.rotateWord (32 - turns) mixed

/-- Four words of a key from a state, and the state after them. -/
def spreadQuad (state : UInt64) : Quad × UInt64 :=
  let s1 := spread state
  let s2 := spread s1
  let s3 := spread s2
  let s4 := spread s3
  (⟨spreadWord s1, spreadWord s2, spreadWord s3, spreadWord s4⟩, s4)

/-- The key of a seed. -/
def Key.ofSeed (seed : UInt64) : Key :=
  let (low, state) := spreadQuad seed
  ⟨low, (spreadQuad state).1⟩

/-- The block with a number, before it is mixed. -/
def Key.plainBlock (key : Key) (number : Nat) : Block where
  first := ⟨0x61707865, 0x3320646E, 0x79622D32, 0x6B206574⟩
  second := key.low
  third := key.high
  fourth := ⟨number.toUInt32, (number / Nat.pow 2 32).toUInt32, 0, 0⟩

/-- The block with a number: six double rounds, with the plain block added at the end. -/
def Key.block (key : Key) (number : Nat) : Block :=
  let plain := key.plainBlock number
  (Nat.repeat Block.doubleRound 6 plain).add plain

/-- The words still to come: those left of the current block, and then the blocks from a number
on. -/
structure Stream where
  key : Key
  left : List UInt32 := []
  number : Nat := 0
deriving DecidableEq, Repr

namespace Stream

/-- The stream of a seed. -/
def ofSeed (seed : UInt64) : Stream where
  key := .ofSeed seed

/-- The next word, and the stream after it. -/
def next (stream : Stream) : UInt32 × Stream :=
  match stream.left with
  | word :: left => (word, { stream with left })
  | [] =>
    let words := (stream.key.block stream.number).words
    (words.headD 0, { stream with left := words.tail, number := stream.number + 1 })

end Stream

end RobotScript.Random
