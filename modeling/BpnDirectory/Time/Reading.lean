import BpnDirectory.Text.Decimal
import BpnDirectory.Text.Excerpt
import BpnDirectory.Time.Instant

namespace BpnDirectory
namespace Time

/-!
Reading RFC 3339 texts.

A text is a date, a separator (`T`, `t` or a space), a time of day, an optional
fraction of any length and the offset from UTC.  What is finer than a nanosecond
is dropped.  The offset may be `Z`, `z` or a sign with hours and minutes, and the
minus sign of mathematics counts as a minus.
-/

/-- Why a text is no instant. -/
inductive Defect where
  /-- The text does not have the form of an instant. -/
  | malformed
  /-- The text breaks off. -/
  | tooShort
  /-- Something follows the instant. -/
  | tooLong
  /-- The text names a day, a time or an offset that does not exist. -/
  | outOfRange
  deriving DecidableEq, Repr

def Defect.message : Defect → String
  | .malformed => "input contains invalid characters"
  | .tooShort => "premature end of input"
  | .tooLong => "trailing input"
  | .outOfRange => "input is out of range"

/-- The number that the next `count` digits stand for, and what follows. -/
def takeDigits (value : Nat) : Nat → List Char → Except Defect (Nat × List Char)
  | 0, cs => .ok (value, cs)
  | count + 1, c :: cs =>
    match Text.digitValue? c with
    | some d => takeDigits (value * 10 + d) count cs
    | none => .error .malformed
  | _ + 1, [] => .error .tooShort

/-- Whether characters have fewer octets than they need. -/
def isShort (count : Nat) (cs : List Char) : Bool := Text.octetLength (cs.take count) < count

/-- A number of a fixed width, and what follows.  Whether the text reaches as far is looked at
before any digit is. -/
def takeNumber (width : Nat) (cs : List Char) : Except Defect (Nat × List Char) :=
  if isShort width cs then .error .tooShort else takeDigits 0 width cs

/-- A number of two digits between two bounds. -/
def takePair (least greatest : Nat) (cs : List Char) : Except Defect (Nat × List Char) := do
  let (n, rest) ← takeNumber 2 cs
  if least ≤ n ∧ n ≤ greatest then .ok (n, rest) else .error .outOfRange

def takeChar (c : Char) : List Char → Except Defect (List Char)
  | d :: rest => if d = c then .ok rest else .error .malformed
  | [] => .error .tooShort

/-- What follows the separator of date and time of day. -/
def takeSeparator : List Char → Except Defect (List Char)
  | 'T' :: rest | 't' :: rest | ' ' :: rest => .ok rest
  | [] => .error .tooShort
  | _ => .error .malformed

/-- Nanoseconds from the digits of a fraction, of which at most nine count. -/
def nanosOfDigits : Nat → List Char → Nat
  | 0, _ => 0
  | scale + 1, c :: cs => ((Text.digitValue? c).getD 0) * Nat.pow 10 scale + nanosOfDigits scale cs
  | _ + 1, [] => 0

/-- The nanoseconds of an optional fraction. -/
def takeFraction : List Char → Except Defect (Nat × List Char)
  | '.' :: rest =>
    let digits := rest.takeWhile Char.isDigit
    if digits.isEmpty then .error (if rest.isEmpty then .tooShort else .malformed)
    else .ok (nanosOfDigits 9 digits, rest.dropWhile Char.isDigit)
  | cs => .ok (0, cs)

/-- The offset from UTC in minutes. -/
def takeOffset : List Char → Except Defect (Int × List Char)
  | 'Z' :: rest | 'z' :: rest => .ok (0, rest)
  | sign :: rest => do
    if sign = '+' ∨ sign = '-' ∨ sign = '\u2212' then
      let (hours, rest) ← takeNumber 2 rest
      let rest ← takeChar ':' rest
      let (minutes, rest) ← takePair 0 59 rest
      let offset : Int := hours * 60 + minutes
      if hours < 24 then .ok (if sign = '+' then offset else -offset, rest)
      else .error .outOfRange
    else .error .malformed
  | [] => .error .tooShort

/-- The instant in UTC of a time of day that is given with an offset.  Offsets
are shorter than a day, so the day changes by one at most. -/
def Instant.ofLocal (date : Date) (second nanos : Nat) (offset : Int) : Instant :=
  let shifted : Int := second - offset * 60
  if shifted < 0 then ⟨date.previous, (shifted + 86400).toNat, nanos⟩
  else if shifted < 86400 then ⟨date, shifted.toNat, nanos⟩
  else ⟨date.next, (shifted - 86400).toNat, nanos⟩

/-- The instant that a text stands for. -/
def Instant.read (cs : List Char) : Except Defect Instant := do
  let (year, cs) ← takeNumber 4 cs
  let cs ← takeChar '-' cs
  let (month, cs) ← takePair 1 12 cs
  let cs ← takeChar '-' cs
  let (day, cs) ← takePair 1 31 cs
  let cs ← takeSeparator cs
  let (hour, cs) ← takePair 0 23 cs
  let cs ← takeChar ':' cs
  let (minute, cs) ← takePair 0 59 cs
  let cs ← takeChar ':' cs
  let (second, cs) ← takePair 0 60 cs
  let (nanos, cs) ← takeFraction cs
  let (offset, cs) ← takeOffset cs
  if !cs.isEmpty then .error .tooLong
  else
    let date : Date := ⟨year, month, day⟩
    if date.IsValid then
      let leap := if second = 60 then 1000000000 else 0
      .ok (.ofLocal date (hour * 3600 + minute * 60 + min second 59) (nanos + leap) offset)
    else .error .outOfRange

def Instant.ofText (text : String) : Except Defect Instant :=
  Instant.read text.toList

end Time
end BpnDirectory
