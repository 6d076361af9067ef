namespace BpnDirectory
namespace Text

/-!
Hexadecimal digits, and octets that are written with them.

The letters stand for the same values in either case.  An octet may be written as a percent
sign with two digits; a percent sign that is followed by anything else stands for itself.
-/

def hexValue? (c : Char) : Option Nat :=
  if '0' ≤ c ∧ c ≤ '9' then some (c.toNat - '0'.toNat)
  else if 'a' ≤ c ∧ c ≤ 'f' then some (c.toNat - 'a'.toNat + 10)
  else if 'A' ≤ c ∧ c ≤ 'F' then some (c.toNat - 'A'.toNat + 10)
  else none

namespace Percent

def sign : UInt8 := 0x25

/-- The octet that a percent sign with two digits stands for. -/
def escaped? (first high low : UInt8) : Option UInt8 := do
  guard (first = sign)
  let high ← hexValue? (Char.ofNat high.toNat)
  let low ← hexValue? (Char.ofNat low.toNat)
  return UInt8.ofNat (16 * high + low)

/-- The octets that encoded octets stand for. -/
def decode : List UInt8 → List UInt8
  | first :: high :: low :: rest =>
    match escaped? first high low with
    | some meant => meant :: decode rest
    | none => first :: decode (high :: low :: rest)
  | short => short

end Percent
end Text
end BpnDirectory
