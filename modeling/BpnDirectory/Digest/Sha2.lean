namespace BpnDirectory
namespace Digest

/-!
The SHA-2 family of hash functions.

All members share one construction on words of 32 or 64 bits.  They differ in
the word size, the number of rounds, the amounts of the rotations, the starting
state and how much of the last state is the hash.  The constants are fractional
parts of roots of the first primes, and are computed from that rule.
-/

/-- Settles the lower bits of a root, from the highest one down: a bit is set if
the power of the root with it does not exceed `n`. -/
def settleBits (degree n : Nat) : Nat → Nat → Nat
  | 0, root => root
  | bit + 1, root =>
    let longer := root + Nat.pow 2 bit
    settleBits degree n bit (if Nat.pow longer degree ≤ n then longer else root)

/-- The greatest number below `2 ^ bits` whose `degree`-th power is at most `n`. -/
def integerRoot (degree n bits : Nat) : Nat :=
  settleBits degree n bits 0

/-- The first 64 bits of the fractional part of a square root. -/
def squareRootBits (n : Nat) : Nat :=
  integerRoot 2 (n * Nat.pow 2 128) 70 % Nat.pow 2 64

/-- The first 64 bits of the fractional part of a cube root. -/
def cubeRootBits (n : Nat) : Nat :=
  integerRoot 3 (n * Nat.pow 2 192) 70 % Nat.pow 2 64

/-- Whether a number above one has no divisor but one and itself. -/
def isPrime (n : Nat) : Bool :=
  2 ≤ n && (List.range n).all fun d => d < 2 || n % d != 0

def primes : List Nat :=
  (List.range 410).filter isPrime

/-- What distinguishes the members of the family with words of one size. -/
structure Sha2 (w : Nat) where
  /-- Amounts of the two rotations and the shift that extend the schedule, for
  each of the two terms. -/
  schedule0 : Nat × Nat × Nat
  schedule1 : Nat × Nat × Nat
  /-- Amounts of the three rotations that mix the state, for each of the two
  terms. -/
  mix0 : Nat × Nat × Nat
  mix1 : Nat × Nat × Nat
  /-- One constant for each round. -/
  constants : Array (BitVec w)
  /-- The starting state. -/
  start : List (BitVec w)
  /-- Number of octets of the hash. -/
  size : Nat

namespace Sha2

variable {w : Nat}

/-- A word from octets, the most significant first. -/
def wordOfOctets (octets : List UInt8) : BitVec w :=
  BitVec.ofNat w (octets.foldl (fun n octet => n * 256 + octet.toNat) 0)

/-- The octets of a number, the most significant first. -/
def octetsOfNat (n : Nat) : Nat → List UInt8
  | 0 => []
  | count + 1 => UInt8.ofNat (n / Nat.pow 256 count) :: octetsOfNat n count

/-- The octets of a word, the most significant first. -/
def octetsOfWord (word : BitVec w) : List UInt8 :=
  octetsOfNat word.toNat (w / 8)

/-- Number of octets in a block of sixteen words. -/
def blockSize (w : Nat) : Nat := 2 * w

/-- A message filled up to whole blocks: a one bit, zeros, and the size of the
message in bits in the last two words. -/
def pad (w : Nat) (message : List UInt8) : List UInt8 :=
  let block := blockSize w
  let tail := w / 4
  let used := (message.length + 1 + tail) % block
  message ++ 0x80 :: List.replicate ((block - used) % block) 0 ++
    octetsOfNat (8 * message.length) tail

/-- Rotates by two amounts and shifts by the third. -/
def scheduleTerm (amounts : Nat × Nat × Nat) (x : BitVec w) : BitVec w :=
  x.rotateRight amounts.1 ^^^ x.rotateRight amounts.2.1 ^^^ x >>> amounts.2.2

def mixTerm (amounts : Nat × Nat × Nat) (x : BitVec w) : BitVec w :=
  x.rotateRight amounts.1 ^^^ x.rotateRight amounts.2.1 ^^^ x.rotateRight amounts.2.2

/-- The next word of a schedule, from the sixteen words before it. -/
def nextWord (kind : Sha2 w) (schedule : Array (BitVec w)) : BitVec w :=
  let back (distance : Nat) := schedule.getD (schedule.size - distance) 0
  back 16 + scheduleTerm kind.schedule0 (back 15) + back 7 +
    scheduleTerm kind.schedule1 (back 2)

def extendSchedule (kind : Sha2 w) : Nat → Array (BitVec w) → Array (BitVec w)
  | 0, schedule => schedule
  | count + 1, schedule => kind.extendSchedule count (schedule.push (kind.nextWord schedule))

/-- The working variables of a block. -/
structure State (w : Nat) where
  a : BitVec w
  b : BitVec w
  c : BitVec w
  d : BitVec w
  e : BitVec w
  f : BitVec w
  g : BitVec w
  h : BitVec w

def State.ofWords : List (BitVec w) → State w
  | [a, b, c, d, e, f, g, h] => ⟨a, b, c, d, e, f, g, h⟩
  | _ => ⟨0, 0, 0, 0, 0, 0, 0, 0⟩

def State.words (s : State w) : List (BitVec w) :=
  [s.a, s.b, s.c, s.d, s.e, s.f, s.g, s.h]

/-- One round, with its constant and its word of the schedule. -/
def round (kind : Sha2 w) (s : State w) (input : BitVec w × BitVec w) : State w :=
  let choice := (s.e &&& s.f) ^^^ (~~~s.e &&& s.g)
  let majority := (s.a &&& s.b) ^^^ (s.a &&& s.c) ^^^ (s.b &&& s.c)
  let t1 := s.h + mixTerm kind.mix1 s.e + choice + input.1 + input.2
  let t2 := mixTerm kind.mix0 s.a + majority
  ⟨t1 + t2, s.a, s.b, s.c, s.d + t1, s.e, s.f, s.g⟩

def compress (kind : Sha2 w) (chain : State w) (block : List (BitVec w)) : State w :=
  let schedule := kind.extendSchedule (kind.constants.size - 16) block.toArray
  let last := (kind.constants.zip schedule).foldl kind.round chain
  .ofWords (chain.words.zipWith (· + ·) last.words)

def chunks {α : Type} (size : Nat) (xs : List α) : List (List α) :=
  (List.range ((xs.length + size - 1) / size)).map fun i => (xs.drop (i * size)).take size

def hash (kind : Sha2 w) (message : List UInt8) : List UInt8 :=
  let words := (chunks (w / 8) (pad w message)).map wordOfOctets
  let last := (chunks 16 words).foldl kind.compress (.ofWords kind.start)
  (last.words.flatMap octetsOfWord).take kind.size

end Sha2

/-- The member of the family with 256 bits of hash, on words of 32 bits. -/
def sha256 : Sha2 32 where
  schedule0 := (7, 18, 3)
  schedule1 := (17, 19, 10)
  mix0 := (2, 13, 22)
  mix1 := (6, 11, 25)
  constants := ((primes.take 64).map fun p => BitVec.ofNat 32 (cubeRootBits p / Nat.pow 2 32)).toArray
  start := (primes.take 8).map fun p => BitVec.ofNat 32 (squareRootBits p / Nat.pow 2 32)
  size := 32

/-- The member of the family with 512 bits of hash, on words of 64 bits. -/
def sha512 : Sha2 64 where
  schedule0 := (1, 8, 7)
  schedule1 := (19, 61, 6)
  mix0 := (28, 34, 39)
  mix1 := (14, 18, 41)
  constants := (primes.map fun p => BitVec.ofNat 64 (cubeRootBits p)).toArray
  start := (primes.take 8).map fun p => BitVec.ofNat 64 (squareRootBits p)
  size := 64

/-- The member of the family with 384 bits of hash: another starting state, and
less of the last state. -/
def sha384 : Sha2 64 :=
  { sha512 with
    start := ((primes.drop 8).take 8).map fun p => BitVec.ofNat 64 (squareRootBits p)
    size := 48 }

/-!
Keyed hashes.

A message is hashed twice together with the key.  A key longer than a block is
replaced by its hash first, and every key is filled up with zeros to a whole
block.
-/

def keyBlock {w : Nat} (kind : Sha2 w) (key : List UInt8) : List UInt8 :=
  let block := Sha2.blockSize w
  let short := if key.length > block then kind.hash key else key
  short ++ List.replicate (block - short.length) 0

def hmac {w : Nat} (kind : Sha2 w) (key message : List UInt8) : List UInt8 :=
  let block := keyBlock kind key
  let inner := kind.hash (block.map (· ^^^ 0x36) ++ message)
  kind.hash (block.map (· ^^^ 0x5c) ++ inner)

end Digest
end BpnDirectory
