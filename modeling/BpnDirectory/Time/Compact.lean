import BpnDirectory.Time.Reading

namespace BpnDirectory
namespace Time
namespace Compact

/-!
Times as digits without separators.

Certificates give a time in UTC as a row of digits, with a `Z` behind it.  The
short form has two digits for the year and none behind the second; the long form
has four and perhaps a fraction.  Only whether there is such a time matters here.
-/

/-- What follows a day and a time of day of fourteen digits. -/
def takeStamp (cs : List Char) : Except Defect (List Char) := do
  let (year, cs) ← takeNumber 4 cs
  let (month, cs) ← takePair 1 12 cs
  let (day, cs) ← takePair 1 31 cs
  let (_, cs) ← takePair 0 23 cs
  let (_, cs) ← takePair 0 59 cs
  let (_, cs) ← takePair 0 59 cs
  if (⟨year, month, day⟩ : Date).IsValid then .ok cs else .error .outOfRange

/-- Whether characters are a time in the short form.  Years below fifty belong to
the next century, which has its leap years in the same places from then on. -/
def isShort (cs : List Char) : Bool :=
  match takeStamp ('2' :: '0' :: cs) with
  | .ok rest => rest == ['Z']
  | .error _ => false

def mostDigits : Nat := 32

/-- Whether characters are a fraction with the sign of UTC behind it. -/
def isFraction : List Char → Bool
  | '.' :: rest =>
    let digits := rest.takeWhile Char.isDigit
    !digits.isEmpty && digits.length ≤ mostDigits && rest.dropWhile Char.isDigit == ['Z']
  | _ => false

def leastLong : Nat := 15

/-- Number of characters up to which a fraction is filled. -/
def filledLong : Nat := 25

/-- A time in the long form with all of its fraction.  A point is put behind the
second if there is none, and zeros in front of the last character. -/
def fill (cs : List Char) : List Char :=
  let cs := if cs.contains '.' then cs else cs.take 14 ++ '.' :: cs.drop 14
  cs.dropLast ++ List.replicate (filledLong - cs.length) '0' ++ cs.drop (cs.length - 1)

/-- Whether characters are a time in the long form, with a sign before the year
or without. -/
def isLong (cs : List Char) : Bool :=
  let unsigned :=
    match fill cs with
    | '+' :: rest | '-' :: rest => rest
    | cs => cs
  leastLong ≤ cs.length &&
    match takeStamp unsigned with
    | .ok rest => isFraction rest
    | .error _ => false

end Compact
end Time
end BpnDirectory
