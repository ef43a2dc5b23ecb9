import SparqlExpr.Random.Basic

/-! A seeded source: the word stream of the ChaCha cipher with twelve rounds, its key spread out
from 64 bits. -/
namespace SparqlExpr.ChaCha

/-- Sixteen words: four of constants, eight of key, two of block number, two unused. -/
abbrev Block := Vector UInt32 16

def rotateLeft (word : UInt32) (count : UInt32) : UInt32 :=
  (word <<< count) ||| (word >>> (32 - count))

/-- Adds the second word to the first, then mixes the first into the third. -/
def mix (a b d : Fin 16) (count : UInt32) (s : Block) : Block :=
  let s := s.set a (s[a] + s[b])
  s.set d (rotateLeft (s[d] ^^^ s[a]) count)

def quarterRound (a b c d : Fin 16) (s : Block) : Block :=
  mix c d b 7 (mix a b d 8 (mix c d b 12 (mix a b d 16 s)))

/-- One round over the columns and one over the diagonals. -/
def doubleRound (s : Block) : Block :=
  let s := quarterRound 3 7 11 15 (quarterRound 2 6 10 14
    (quarterRound 1 5 9 13 (quarterRound 0 4 8 12 s)))
  quarterRound 3 4 9 14 (quarterRound 2 7 8 13 (quarterRound 1 6 11 12 (quarterRound 0 5 10 15 s)))

def input (key : Vector UInt32 8) (number : Nat) : Block :=
  #v[0x61707865, 0x3320646e, 0x79622d32, 0x6b206574,
    key[0], key[1], key[2], key[3], key[4], key[5], key[6], key[7],
    .ofNat number, .ofNat (number >>> 32), 0, 0]

/-- The output block of a given number. -/
def block (key : Vector UInt32 8) (number : Nat) : Block :=
  let start := input key number
  .zipWith (· + ·) start (Nat.repeat doubleRound 6 start)

/-- A word of the stream that the blocks form in sequence. -/
def word (key : Vector UInt32 8) (position : Nat) : UInt32 :=
  (block key (position / 16)).get ⟨position % 16, Nat.mod_lt _ (by decide)⟩

/-- Moves the seed on by one step of a linear generator. -/
def nextState (state : UInt64) : UInt64 :=
  state * 6364136223846793005 + 11634580027462260723

/-- Folds a seed state to a key word, rotated right by its top five bits. -/
def keyWord (state : UInt64) : UInt32 :=
  let folded := (((state >>> 18) ^^^ state) >>> 27).toUInt32
  let count := (state >>> 59).toUInt32
  (folded >>> count) ||| (folded <<< ((32 - count) % 32))

/-- The seed states in sequence. -/
def states (seed : UInt64) : Nat → UInt64
  | 0 => nextState seed
  | n + 1 => nextState (states seed n)

def keyOfSeed (seed : UInt64) : Vector UInt32 8 :=
  .ofFn fun i => keyWord (states seed i)

/-- A place in the word stream of a key. -/
structure Stream where
  key : Vector UInt32 8
  position : Nat
deriving DecidableEq

namespace Stream

def ofSeed (seed : UInt64) : Stream :=
  ⟨keyOfSeed seed, 0⟩

/-- The word a few places ahead. -/
def peek (s : Stream) (ahead : Nat) : UInt32 :=
  word s.key (s.position + ahead)

def skip (s : Stream) (count : Nat) : Stream :=
  { s with position := s.position + count }

/-- The top 53 bits of two words, as a fraction of 2^53. -/
def double (s : Stream) : Double :=
  let bits := ((s.peek 1).toNat <<< 32 + (s.peek 0).toNat) >>> 11
  .ofUnits false (bits <<< 1021)

/-- Four words as sixteen bytes, the low byte of each word first. -/
def uuid (s : Stream) : Uuid :=
  .ofRandomBytes (.ofFn fun i => (s.peek (i.val / 4) >>> .ofNat (8 * (i.val % 4))).toUInt8)

end Stream

instance : RandomSource Stream where
  nextDouble s := (s.double, s.skip 2)
  nextUuid s := (s.uuid, s.skip 4)

end SparqlExpr.ChaCha
