namespace BpnDirectory
namespace Numeric

/-!
Quotients rounded to whole numbers.

The two ways differ only where a quotient lies halfway between two whole numbers.
A quotient that is whole is left as it is.
-/

/-- The whole number nearest to a quotient; of two, the even one. -/
def roundEven (numerator denominator : Nat) : Nat :=
  let quotient := numerator / denominator
  let twice := 2 * (numerator % denominator)
  if denominator < twice ∨ (twice = denominator ∧ quotient % 2 = 1) then quotient + 1
  else quotient

/-- The whole number nearest to a quotient; of two, the greater one. -/
def roundUp (numerator denominator : Nat) : Nat :=
  (2 * numerator + denominator) / (2 * denominator)

/-!
Magnitudes in double precision.

A finite double is a whole number of the least positive one, which is two to the
minus 1074, so its magnitude is kept as that number.  Up to 53 binary digits of
it may be other than zero.  An operation yields the double nearest to the exact
result, of two the one with an even last digit, and nothing where the result is
beyond every double.
-/

structure Binary64 where
  /-- How often the least positive double is in it. -/
  units : Nat
  deriving DecidableEq, Repr

namespace Binary64

def one : Nat := Nat.pow 2 1074

/-- The least number of units that no double has. -/
def limit : Nat := Nat.pow 2 (1024 + 1074)

/-- Number of binary digits that a double keeps. -/
def precision : Nat := 53

/-- Distance in units from a double to the next one, seen from a number of units
of at least the former. -/
def spacing (units : Nat) : Nat := Nat.pow 2 (units.log2 + 1 - precision)

/-- The double nearest to a quotient of units. -/
def ofUnits? (numerator denominator : Nat) : Option Binary64 :=
  let step := spacing (numerator / denominator)
  let units := step * roundEven numerator (denominator * step)
  if units < limit then some ⟨units⟩ else none

def ofQuotient? (numerator denominator : Nat) : Option Binary64 :=
  ofUnits? (numerator * one) denominator

def mul? (a b : Binary64) : Option Binary64 :=
  ofUnits? (a.units * b.units) one

def div? (a b : Binary64) : Option Binary64 :=
  ofQuotient? a.units b.units

/-- The whole number nearest to a double, a half going up. -/
def round (a : Binary64) : Nat := roundUp a.units one

/-- The nearest decimal number with `places` digits behind the point, as a whole
number of its last digit; of two, the even one. -/
def toFixed (places : Nat) (a : Binary64) : Nat :=
  roundEven (a.units * Nat.pow 10 places) one

end Binary64
end Numeric
end BpnDirectory
