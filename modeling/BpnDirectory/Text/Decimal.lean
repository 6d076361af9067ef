namespace BpnDirectory
namespace Text

/-!
Whole numbers in decimal notation.

A number may start with one sign.  At least one ASCII digit must follow, and
nothing but digits.  The reader takes the range of the number it is to fill and
refuses a value outside it, so no caller meets a number that was cut down.
-/

def digitValue? (c : Char) : Option Nat :=
  if '0' ≤ c ∧ c ≤ '9' then some (c.toNat - '0'.toNat) else none

/-- The value of digits that follow a number already read. -/
def digitsFrom? (value : Nat) : List Char → Option Nat
  | [] => some value
  | c :: rest =>
    match digitValue? c with
    | some d => digitsFrom? (10 * value + d) rest
    | none => none

def digits? : List Char → Option Nat
  | [] => none
  | c :: rest => digitsFrom? 0 (c :: rest)

/-- A number without a minus sign that is at most `greatest`. -/
def natural? (greatest : Nat) (text : String) : Option Nat :=
  let magnitude :=
    match text.toList with
    | '+' :: rest => digits? rest
    | cs => digits? cs
  magnitude.filter (· ≤ greatest)

/-- A number from `least` to `greatest`, with either sign. -/
def integer? (least greatest : Int) (text : String) : Option Int :=
  let value : Option Int :=
    match text.toList with
    | '+' :: rest => (digits? rest).map Int.ofNat
    | '-' :: rest => (digits? rest).map fun n => -Int.ofNat n
    | cs => (digits? cs).map Int.ofNat
  value.filter fun n => least ≤ n && n ≤ greatest

/-- Greatest value of a 64-bit number without sign. -/
def maxUnsigned64 : Nat := 0xffffffffffffffff

/-- Least value of a 64-bit number with sign. -/
def minSigned64 : Int := -0x8000000000000000

/-- Greatest value of a 64-bit number with sign. -/
def maxSigned64 : Int := 0x7fffffffffffffff

def signed64? (text : String) : Option Int :=
  integer? minSigned64 maxSigned64 text

def unsigned64? (text : String) : Option Nat :=
  natural? maxUnsigned64 text

end Text
end BpnDirectory
