import DiceCup.Random.Source

/-!
# The seeded source

Seeded rolls draw their words from the ChaCha stream cipher with twelve rounds.  A key of eight
words gives a sequence of blocks of sixteen words, numbered by a counter of 64 bits, and the words
are drawn block by block.  A seed of 64 bits is spread over the key by a congruential generator with
permuted output.
-/

namespace DiceCup

/-- The sixteen words that the cipher works on. -/
abbrev Block :=
  Vector UInt32 16

/-- The eight words that tell one stream from another. -/
abbrev Key :=
  Vector UInt32 8

namespace Block

/-- Turn the bits of a word to the left. -/
def rotateLeft
    (word places : UInt32) :
    UInt32 :=
  word <<< places ||| word >>> (32 - places)

/-- Add the second of two words to the first, and turn the third by what that makes of it. -/
def mixStep
    (target addend turned : Fin 16)
    (places : UInt32)
    (block : Block) :
    Block :=
  let added := block.set target (block[target] + block[addend])
  added.set turned (rotateLeft (added[turned] ^^^ added[target]) places)

/-- Mix four words of the block. -/
def quarterRound
    (a b c d : Fin 16)
    (block : Block) :
    Block :=
  mixStep c d b 7 (mixStep a b d 8 (mixStep c d b 12 (mixStep a b d 16 block)))

/-- Mix the columns of the block, then its diagonals. -/
def doubleRound
    (block : Block) :
    Block :=
  let columns :=
    quarterRound 3 7 11 15 (quarterRound 2 6 10 14
      (quarterRound 1 5 9 13 (quarterRound 0 4 8 12 block)))
  quarterRound 3 4 9 14 (quarterRound 2 7 8 13
    (quarterRound 1 6 11 12 (quarterRound 0 5 10 15 columns)))

/-- The four words that every block starts with. -/
def constants :
    Vector UInt32 4 :=
  #v[0x61707865, 0x3320646E, 0x79622D32, 0x6B206574]

/-- The block before it is mixed: four constant words, the key, and the counter. -/
def start
    (key : Key)
    (counter : UInt64) :
    Block :=
  constants ++ key ++ #v[counter.toUInt32, (counter >>> 32).toUInt32, 0, 0]

/-- The block with a number: twelve rounds, and the block before them added again. -/
def ofCounter
    (key : Key)
    (counter : UInt64) :
    Block :=
  let unmixed := start key counter
  (Nat.repeat doubleRound 6 unmixed).zipWith (· + ·) unmixed

end Block

namespace Key

/-- One step of the generator that spreads a seed. -/
def spread
    (state : UInt64) :
    UInt64 :=
  state * 6364136223846793005 + 11634580027462260723

/-- The word that a state of the generator gives out. -/
def output
    (state : UInt64) :
    UInt32 :=
  let folded := (((state >>> 18) ^^^ state) >>> 27).toUInt32
  let places := (state >>> 59).toUInt32
  folded >>> places ||| folded <<< (32 - places)

/-- The key of a seed. -/
def ofSeed
    (seed : UInt64) :
    Key :=
  Vector.ofFn fun index => output (Nat.repeat spread (index + 1) seed)

end Key

/-- A place in a stream: the words that are left of a block, and the number of the next one. -/
structure KeyStream where
  key : Key
  counter : UInt64
  pending : List UInt32

namespace KeyStream

/-- The start of the stream of a key. -/
def ofKey
    (key : Key) :
    KeyStream :=
  { key, counter := 0, pending := [] }

/-- The start of the stream of a seed. -/
def ofSeed
    (seed : UInt64) :
    KeyStream :=
  ofKey (Key.ofSeed seed)

/-- Draw the next word of the stream. -/
def draw :
    StateM KeyStream UInt32 := fun stream =>
  match stream.pending with
  | word :: others => (word, { stream with pending := others })
  | [] =>
    let block := Block.ofCounter stream.key stream.counter
    (block[0], { stream with counter := stream.counter + 1, pending := block.toList.tail })

instance : WordSource KeyStream where
  next := draw
  horizon stream := stream.pending.length + 16 * UInt64.size

end KeyStream

end DiceCup
