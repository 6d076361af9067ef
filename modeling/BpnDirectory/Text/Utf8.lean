namespace BpnDirectory
namespace Text
namespace Utf8

/-!
Octets read as UTF-8.

Octets that come from outside need not be UTF-8.  The reader therefore yields
either a character or a gap, one gap for each longest run of octets that begins
a character and cannot be completed, and one for each octet that begins none.
A caller that wants text throughout refuses gaps; a caller that has to show
something puts the replacement character in their place.
-/

/-- A character under way: the number of octets still owed, the range of the
next one and the value so far. -/
structure Pending where
  owed : Nat
  low : Nat
  high : Nat
  value : Nat

/-- What the first octet of a character says. -/
inductive Start where
  | whole (c : Char)
  | more (pending : Pending)
  | gap

/-- The meaning of an octet between two characters.  The ranges of the second
octet leave out overlong forms, surrogates and values above U+10FFFF. -/
def start (octet : UInt8) : Start :=
  let b := octet.toNat
  if b < 0x80 then .whole (Char.ofNat b)
  else if b < 0xc2 then .gap
  else if b < 0xe0 then .more ⟨1, 0x80, 0xbf, b - 0xc0⟩
  else if b = 0xe0 then .more ⟨2, 0xa0, 0xbf, 0⟩
  else if b = 0xed then .more ⟨2, 0x80, 0x9f, 0xd⟩
  else if b < 0xf0 then .more ⟨2, 0x80, 0xbf, b - 0xe0⟩
  else if b = 0xf0 then .more ⟨3, 0x90, 0xbf, 0⟩
  else if b < 0xf4 then .more ⟨3, 0x80, 0xbf, b - 0xf0⟩
  else if b = 0xf4 then .more ⟨3, 0x80, 0x8f, 4⟩
  else .gap

/-- What is under way after an octet between two characters, and what was read so
far, last to first. -/
def begin (reversed : List (Option Char)) (octet : UInt8) :
    Option Pending × List (Option Char) :=
  match start octet with
  | .whole c => (none, some c :: reversed)
  | .more pending => (some pending, reversed)
  | .gap => (none, none :: reversed)

/-- What is under way after one more octet, and what was read so far. -/
def step : Option Pending × List (Option Char) → UInt8 → Option Pending × List (Option Char)
  | (none, reversed), octet => begin reversed octet
  | (some pending, reversed), octet =>
    if pending.low ≤ octet.toNat ∧ octet.toNat ≤ pending.high then
      let value := pending.value * 64 + octet.toNat % 64
      if pending.owed ≤ 1 then (none, some (Char.ofNat value) :: reversed)
      else (some ⟨pending.owed - 1, 0x80, 0xbf, value⟩, reversed)
    else begin (none :: reversed) octet

def read (octets : List UInt8) : List (Option Char) :=
  match octets.foldl step (none, []) with
  | (none, reversed) => reversed.reverse
  | (some _, reversed) => (none :: reversed).reverse

/-- Octets as text, with the replacement character for every gap. -/
def readLossy (octets : List UInt8) : String :=
  String.ofList ((read octets).map fun c => c.getD '\ufffd')

/-- Octets as text, if they are text throughout. -/
def read? (octets : List UInt8) : Option String :=
  String.fromUTF8? ⟨octets.toArray⟩

def octets (text : String) : List UInt8 :=
  text.toUTF8.data.toList

end Utf8
end Text
end BpnDirectory
