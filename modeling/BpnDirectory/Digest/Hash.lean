namespace BpnDirectory
namespace Digest

/-!
Hashes of 64 bits that spread keys.

The Fowler-Noll-Vo hash FNV-1a tells the samples of a metric apart by their labels.  The
short-input hash SipHash, with one round for each word and three rounds at the end under the
key zero, spreads cache keys over shards.
-/

/-! ## FNV-1a -/

def fnvBasis : UInt64 := 0xcbf29ce484222325

/-- What the hash is multiplied by for each octet. -/
def fnvPrime : UInt64 := 0x100000001b3

def fnv (octets : List UInt8) : UInt64 :=
  octets.foldl (fun hash octet => (hash ^^^ octet.toUInt64) * fnvPrime) fnvBasis

/-! ## SipHash -/

namespace SipHash

structure State where
  v0 : UInt64
  v1 : UInt64
  v2 : UInt64
  v3 : UInt64

/-- The state that the key zero starts from. -/
def start : State :=
  ⟨0x736f6d6570736575, 0x646f72616e646f6d, 0x6c7967656e657261, 0x7465646279746573⟩

def rotate (x : UInt64) (amount : UInt64) : UInt64 :=
  (x <<< amount) ||| (x >>> (64 - amount))

/-- One round. -/
def round (s : State) : State :=
  let v0 := s.v0 + s.v1
  let v1 := rotate s.v1 13 ^^^ v0
  let v0 := rotate v0 32
  let v2 := s.v2 + s.v3
  let v3 := rotate s.v3 16 ^^^ v2
  let v0 := v0 + v3
  let v3 := rotate v3 21 ^^^ v0
  let v2 := v2 + v1
  let v1 := rotate v1 17 ^^^ v2
  let v2 := rotate v2 32
  ⟨v0, v1, v2, v3⟩

def absorb (s : State) (word : UInt64) : State :=
  let s := round { s with v3 := s.v3 ^^^ word }
  { s with v0 := s.v0 ^^^ word }

/-- A word from at most eight octets, the least significant first. -/
def wordOfOctets (octets : List UInt8) : UInt64 :=
  octets.foldr (fun octet word => word * 256 + octet.toUInt64) 0

/-- The state after octets that follow `length` others.  The last word holds what
is left over, and the length of the message in its highest octet. -/
def absorbAll (s : State) (length : Nat) : List UInt8 → State
  | a :: b :: c :: d :: e :: f :: g :: h :: rest =>
    absorbAll (absorb s (wordOfOctets [a, b, c, d, e, f, g, h])) (length + 8) rest
  | rest =>
    absorb s (wordOfOctets rest ||| (UInt64.ofNat (length + rest.length) <<< 56))

def hash (octets : List UInt8) : UInt64 :=
  let s := absorbAll start 0 octets
  let s := round (round (round { s with v2 := s.v2 ^^^ 0xff }))
  s.v0 ^^^ s.v1 ^^^ s.v2 ^^^ s.v3

end SipHash
end Digest
end BpnDirectory
