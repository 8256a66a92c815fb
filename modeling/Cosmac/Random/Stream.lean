import Cosmac.Random.ChaCha

/-!
# Random bytes

Random bytes come from a stream of 32-bit words. A draw takes the next word and uses its low byte. A
generator is therefore its stream and the number of words taken, and what it draws is told by these
two, whichever stream it is.

The stream that is used is fixed once and for all by a key: the words of the ChaCha blocks with
counters 0, 1, 2 and so on, after six double rounds each. A seed is turned into a key by eight steps of
a linear congruential generator, each of which gives one word by a shift, an exclusive or, and a
rotation by as many places as the top bits say.
-/

namespace Cosmac.Random

/-- How many double rounds the generator uses. -/
def doubleRounds : Nat := 6

/-- One step of the generator that expands a seed. -/
def seedStep (state : UInt64) : UInt64 := state * 6364136223846793005 + 11634580027462260723

/-- Rotates a word to the right by `n` bits, for `n` below 32. -/
def rotateRight (x n : UInt32) : UInt32 := (x >>> n) ||| (x <<< (32 - n))

/-- The key word that a state of that generator gives. -/
def seedWord (state : UInt64) : UInt32 :=
  let mixed := (((state >>> 18) ^^^ state) >>> 27).toUInt32
  rotateRight mixed (state >>> 59).toUInt32

/-- The key that a seed stands for. -/
def keyOfSeed (seed : UInt64) : Key :=
  Vector.ofFn fun k => seedWord ((k.val + 1).repeat seedStep seed)

/-- Word number `k` of the stream of a key. -/
def word (key : Key) (k : Nat) : UInt32 :=
  (ChaCha.block doubleRounds key (k / 16))[k % 16]

/-- A generator: the words of its stream by their numbers, and how many were taken. -/
structure Generator where
  words : Nat → UInt32
  taken : Nat := 0

namespace Generator

/-- The generator of a key, at its first word. -/
def ofKey (key : Key) : Generator := { words := word key }

/-- The generator of a seed, at its first word. -/
def ofSeed (seed : UInt64) : Generator := ofKey (keyOfSeed seed)

/-- The next byte: the low byte of the next word. -/
def byte (g : Generator) : UInt8 := (g.words g.taken).toUInt8

/-- The generator after one more word was taken. -/
def next (g : Generator) : Generator := { g with taken := g.taken + 1 }

end Generator

end Cosmac.Random
