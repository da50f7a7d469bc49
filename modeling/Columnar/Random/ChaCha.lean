/-!
# A seeded stream of 64-bit words

The stream is the keystream of ChaCha with eight rounds, a 64-bit block counter that starts at zero and
a zero nonce; each 64-bit word takes two consecutive 32-bit words, the low half first. The key is
expanded from a 64-bit seed by a linear congruential generator with permuted output, one step for each
of the eight key words.

## Termination

A block takes a fixed number of rounds. The stream holds the unread words of its current block, and a
block has words whenever it is made, so a word is always at hand after at most one new block.
-/

namespace Columnar.Random

/-! ## The block function -/

/-- The sixteen words of a block. -/
abbrev Words := Vector UInt32 16

/-- A word rotated to the left by `n` bits, for `0 < n < 32`. -/
def rotateLeft (x n : UInt32) : UInt32 :=
  (x <<< n) ||| (x >>> (32 - n))

/-- Adds word `b` to word `a`, and mixes the sum into word `d`. -/
def mix (a b d : Fin 16) (n : UInt32) (w : Words) : Words :=
  let w := w.set a (w[a] + w[b])
  w.set d (rotateLeft (w[d] ^^^ w[a]) n)

/-- The quarter round on four words of a block. -/
def quarterRound (a b c d : Fin 16) (w : Words) : Words :=
  mix c d b 7 (mix a b d 8 (mix c d b 12 (mix a b d 16 w)))

/-- A round on the columns of a block and a round on its diagonals. -/
def doubleRound (w : Words) : Words :=
  let w := quarterRound 3 7 11 15 (quarterRound 2 6 10 14 (quarterRound 1 5 9 13 (quarterRound 0 4 8 12 w)))
  quarterRound 3 4 9 14 (quarterRound 2 7 8 13 (quarterRound 1 6 11 12 (quarterRound 0 5 10 15 w)))

/-- The eight words of a key. -/
abbrev Key := Vector UInt32 8

/-- The block of a key at a counter before any round: four constants, the key, the counter with its low
word first, and two zero words. -/
def initialBlock (key : Key) (counter : UInt64) : Words :=
  #v[0x61707865, 0x3320646e, 0x79622d32, 0x6b206574, key[0], key[1], key[2], key[3], key[4], key[5], key[6],
    key[7], counter.toUInt32, (counter >>> 32).toUInt32, 0, 0]

/-- The block of a key at a counter. -/
def block (key : Key) (counter : UInt64) : Words :=
  let start := initialBlock key counter
  Vector.zipWith (· + ·) (doubleRound (doubleRound (doubleRound (doubleRound start)))) start

/-- Two consecutive words as one, the first as its low half. -/
def pairWords : List UInt32 → List UInt64
  | low :: high :: rest => (low.toUInt64 ||| (high.toUInt64 <<< 32)) :: pairWords rest
  | _ => []

/-! ## Seeds -/

/-- A step of the generator that expands a seed. -/
def seedStep (state : UInt64) : UInt64 :=
  state * 6364136223846793005 + 11634580027462260723

/-- The word that a state gives: folded to 32 bits and rotated to the right by its top five bits. -/
def seedWord (state : UInt64) : UInt32 :=
  let folded := (((state >>> 18) ^^^ state) >>> 27).toUInt32
  let turn := (state >>> 59).toUInt32
  (folded >>> turn) ||| (folded <<< ((32 - turn) % 32))

/-- The words of `n` steps from a state. -/
def seedWords : (n : Nat) → UInt64 → Vector UInt32 n
  | 0, _ => #v[]
  | n + 1, state =>
    let next := seedStep state
    (Vector.singleton (seedWord next) ++ seedWords n next).cast (by omega)

/-! ## The stream -/

/-- A position in the stream of a key: the words left of the current block, and the next block's counter. -/
structure Stream where
  key : Key
  counter : UInt64
  unread : List UInt64
  deriving Repr

namespace Stream

/-- The start of the stream of a seed. -/
def ofSeed (seed : UInt64) : Stream :=
  ⟨seedWords 8 seed, 0, []⟩

/-- The next word of the stream. -/
def next (s : Stream) : UInt64 × Stream :=
  match s.unread with
  | word :: rest => (word, { s with unread := rest })
  | [] =>
    let words := pairWords (block s.key s.counter).toList
    (words.headD 0, { s with counter := s.counter + 1, unread := words.tail })

end Stream

end Columnar.Random
