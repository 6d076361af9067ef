import BpnDirectory.Text.Utf8

namespace BpnDirectory
namespace Text
namespace Base64Url

/-!
The URL-safe base-64 alphabet without padding.

Three octets are written as four digits of six bits each; one or two octets at
the end take two or three digits, whose last one has unused low bits.  The
reader is strict: it refuses padding, characters outside the alphabet, a single
left-over digit and unused bits that are not zero, so every sequence of octets
has one written form.
-/

/-- The digit that stands for a number below 64. -/
def digit (n : Nat) : Char :=
  if n < 26 then Char.ofNat ('A'.toNat + n)
  else if n < 52 then Char.ofNat ('a'.toNat + (n - 26))
  else if n < 62 then Char.ofNat ('0'.toNat + (n - 52))
  else if n = 62 then '-'
  else '_'

def digitValue? (c : Char) : Option Nat :=
  if 'A' ≤ c ∧ c ≤ 'Z' then some (c.toNat - 'A'.toNat)
  else if 'a' ≤ c ∧ c ≤ 'z' then some (c.toNat - 'a'.toNat + 26)
  else if '0' ≤ c ∧ c ≤ '9' then some (c.toNat - '0'.toNat + 52)
  else if c = '-' then some 62
  else if c = '_' then some 63
  else none

/-- The written form of octets. -/
def encodeOctets : List UInt8 → List Char
  | [] => []
  | [a] => [digit (a.toNat / 4), digit (a.toNat % 4 * 16)]
  | [a, b] =>
    [digit (a.toNat / 4), digit (a.toNat % 4 * 16 + b.toNat / 16),
      digit (b.toNat % 16 * 4)]
  | a :: b :: c :: rest =>
    digit (a.toNat / 4) :: digit (a.toNat % 4 * 16 + b.toNat / 16) ::
      digit (b.toNat % 16 * 4 + c.toNat / 64) :: digit (c.toNat % 64) ::
      encodeOctets rest

/-- The octets that digits stand for. -/
def decodeDigits : List Nat → Option (List UInt8)
  | [] => some []
  | [_] => none
  | [w, x] =>
    if x % 16 = 0 then some [UInt8.ofNat (w * 4 + x / 16)] else none
  | [w, x, y] =>
    if y % 4 = 0 then
      some [UInt8.ofNat (w * 4 + x / 16), UInt8.ofNat (x % 16 * 16 + y / 4)]
    else none
  | w :: x :: y :: z :: rest =>
    match decodeDigits rest with
    | some octets =>
      some (UInt8.ofNat (w * 4 + x / 16) :: UInt8.ofNat (x % 16 * 16 + y / 4) ::
        UInt8.ofNat (y % 4 * 64 + z) :: octets)
    | none => none

/-- The octets that a written form stands for. -/
def decodeOctets (cs : List Char) : Option (List UInt8) :=
  (cs.mapM digitValue?).bind decodeDigits

/-- The written form of the octets of a text. -/
def encode (text : String) : String :=
  String.ofList (encodeOctets (Utf8.octets text))

/-- The octets that a written form stands for. -/
def decode (written : String) : Option (List UInt8) :=
  decodeOctets written.toList

/-- The text that a written form stands for; octets that are no UTF-8 are no
text. -/
def decodeText (written : String) : Option String :=
  (decode written).bind Utf8.read?

end Base64Url

namespace Base64

/-!
The usual base-64 alphabet with padding.

It differs from the URL-safe one in the last two digits and in the padding, which
fills every written form up to whole groups of four.
-/

def urlSafe? (c : Char) : Option Char :=
  match c with
  | '+' => some '-'
  | '/' => some '_'
  | '-' | '_' => none
  | c => some c

/-- The octets that a written form stands for. -/
def decode (cs : List Char) : Option (List UInt8) :=
  let digits := (cs.reverse.dropWhile (· == '=')).reverse
  if cs.length % 4 = 0 ∧ cs.length ≤ digits.length + 2 then
    (digits.mapM urlSafe?).bind Base64Url.decodeOctets
  else none

end Base64
end Text
end BpnDirectory
