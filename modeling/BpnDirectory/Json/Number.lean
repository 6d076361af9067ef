import BpnDirectory.Json.Value
import BpnDirectory.Numeric.Binary64
import BpnDirectory.Text.Decimal

namespace BpnDirectory
namespace Json

/-!
The number that a literal stands for.

A literal without point and exponent is a whole number if it fits into 64 bits;
a minus sign before a zero, a point, an exponent or too many digits make it a
floating-point number.

A floating-point number has a significand of at most 64 bits and a power of ten.
Digits are taken into the significand as long as they fit.  Further digits before
the point raise the power, and those behind it do not count.  The significand is
then multiplied or divided by the power in double precision, so the number is
close to what is written and not always the closest.  A number beyond every
double cannot be read at all.
-/

open Numeric (Binary64)

inductive Number where
  | whole (value : Int)
  | floating (negative : Bool) (magnitude : Binary64)
  deriving DecidableEq, Repr

/-- A significand and the digits that have gone into it and that have not. -/
structure Significand where
  value : Nat
  taken : Nat
  left : Nat
  deriving DecidableEq, Repr

/-- A significand with one more digit, if it fits and every digit so far did. -/
def Significand.push (significand : Significand) (c : Char) : Significand :=
  let value := 10 * significand.value + (c.toNat - '0'.toNat)
  if significand.left = 0 ∧ value ≤ Text.maxUnsigned64 then
    ⟨value, significand.taken + 1, 0⟩
  else { significand with left := significand.left + 1 }

def Literal.wholePart (literal : Literal) : Significand :=
  literal.whole.reverse.foldl Significand.push ⟨0, 0, 0⟩

/-- The digits behind the point, as they go into the significand of those before
it. -/
def Literal.fractionPart (literal : Literal) : Significand :=
  literal.fraction.reverse.foldl Significand.push ⟨literal.wholePart.value, 0, 0⟩

/-- The value of the digits of an exponent, which are kept last to first, unless it
is beyond 31 bits. -/
def exponentValue? (reversed : List Char) : Option Nat :=
  reversed.reverse.foldlM (fun n c =>
    let n := 10 * n + (c.toNat - '0'.toNat)
    if n < 0x80000000 then some n else none) 0

/-- The greatest power of ten that is a double. -/
def greatestPower : Nat := 308

/-- The double nearest to a power of ten. -/
def tenTo? (power : Nat) : Option Binary64 :=
  Binary64.ofQuotient? (Nat.pow 10 power) 1

/-- A double divided by the greatest power of ten some times over. -/
def divideSteps? (value : Binary64) : Nat → Option Binary64
  | 0 => some value
  | steps + 1 =>
    if value.units = 0 then some value
    else
      match (tenTo? greatestPower).bind value.div? with
      | some smaller => divideSteps? smaller steps
      | none => none

/-- A double times a power of ten.  A power too small for a double is divided by in
steps. -/
def scale? (value : Binary64) (power : Int) : Option Binary64 :=
  if value.units = 0 then some value
  else if 0 ≤ power then
    if power ≤ greatestPower then (tenTo? power.toNat).bind value.mul? else none
  else
    let steps := (power.natAbs - 1) / greatestPower
    (divideSteps? value steps).bind fun smaller =>
      (tenTo? (power.natAbs - steps * greatestPower)).bind smaller.div?

/-- The magnitude of a literal in double precision. -/
def Literal.magnitude? (literal : Literal) : Option Binary64 :=
  let significand := literal.fractionPart
  let power : Option Int :=
    match literal.exponent with
    | none => some 0
    | some (true, digits) => (exponentValue? digits).map fun n => -Int.ofNat n
    | some (false, digits) => (exponentValue? digits).map Int.ofNat
  match power with
  | some power =>
    (Binary64.ofQuotient? significand.value 1).bind fun value =>
      scale? value (literal.wholePart.left - significand.taken + power)
  | none =>
    if significand.value = 0 ∨ literal.exponent.any Prod.fst then some ⟨0⟩ else none

/-- Whether reading a literal ends before its last digit, because its exponent is
beyond 31 bits by then.  A number that is zero or close to it is read to its end. -/
def Literal.isGivenUp (literal : Literal) : Bool :=
  match literal.exponent with
  | some (false, digits) =>
    (exponentValue? digits.tail).isNone && literal.fractionPart.value ≠ 0
  | _ => false

/-- The number that a literal stands for, if it can be read. -/
def Literal.number? (literal : Literal) : Option Number :=
  let whole := literal.wholePart
  let plain := !literal.pointed && literal.exponent.isNone && whole.left = 0
  if plain && !literal.negative then some (.whole whole.value)
  else if plain && 0 < whole.value && whole.value ≤ 0x8000000000000000 then
    some (.whole (-Int.ofNat whole.value))
  else literal.magnitude?.map fun magnitude => .floating literal.negative magnitude

end Json
end BpnDirectory
