/-!
# The ChaCha block function

A block is made from a key of eight words and a counter. The sixteen words of the initial state are
four constants, the key, the counter in two words, and two zeros; they are stirred by a number of
double rounds, each a round over the columns and a round over the diagonals, and the initial state is
added at the end.
-/

namespace Cosmac.Random

/-- The key of a generator: eight 32-bit words. -/
abbrev Key := Vector UInt32 8

namespace ChaCha

/-- The sixteen words that are stirred. -/
abbrev State := Vector UInt32 16

/-- Rotates a word to the left by `n` bits, for `n` from 1 to 31. -/
def rotateLeft (x n : UInt32) : UInt32 := (x <<< n) ||| (x >>> (32 - n))

/-- Stirs four words of the state. -/
def quarterRound (s : State) (a b c d : Fin 16) : State :=
  let s := s.set a (s[a] + s[b])
  let s := s.set d (rotateLeft (s[d] ^^^ s[a]) 16)
  let s := s.set c (s[c] + s[d])
  let s := s.set b (rotateLeft (s[b] ^^^ s[c]) 12)
  let s := s.set a (s[a] + s[b])
  let s := s.set d (rotateLeft (s[d] ^^^ s[a]) 8)
  let s := s.set c (s[c] + s[d])
  s.set b (rotateLeft (s[b] ^^^ s[c]) 7)

/-- A round over the four columns and a round over the four diagonals. -/
def doubleRound (s : State) : State :=
  let s := quarterRound s 0 4 8 12
  let s := quarterRound s 1 5 9 13
  let s := quarterRound s 2 6 10 14
  let s := quarterRound s 3 7 11 15
  let s := quarterRound s 0 5 10 15
  let s := quarterRound s 1 6 11 12
  let s := quarterRound s 2 7 8 13
  quarterRound s 3 4 9 14

/-- The state before stirring. -/
def initial (key : Key) (counter : Nat) : State :=
  #v[0x61707865, 0x3320646e, 0x79622d32, 0x6b206574,
    key[0], key[1], key[2], key[3], key[4], key[5], key[6], key[7],
    UInt32.ofNat counter, UInt32.ofNat (counter / 0x100000000), 0, 0]

/-- The block of a key and a counter, after `n` double rounds. -/
def block (n : Nat) (key : Key) (counter : Nat) : State :=
  let start := initial key counter
  Vector.zipWith (· + ·) (n.repeat doubleRound start) start

end ChaCha

end Cosmac.Random
