import BpnDirectory.Time.Date

namespace BpnDirectory
namespace Time

/-!
Instants and their written form.

An instant is a time of day in UTC on a calendar day, down to the nanosecond.
Records carry the instants of their creation and of their latest change; the
database keeps them as RFC 3339 texts with six digits behind the second, and the
service shows them with as few groups of three digits as are needed.  A leap
second is the sixtieth second of a minute and is kept as such.
-/

/-- An instant in UTC.  In a leap second, `nanos` counts on from one second. -/
structure Instant where
  date : Date
  /-- Whole seconds since midnight, at most 86399. -/
  second : Nat
  /-- Nanoseconds since that second, below two seconds. -/
  nanos : Nat
  deriving DecidableEq, Repr

namespace Instant

/-- The instant without what is finer than a microsecond. -/
def truncateToMicros (instant : Instant) : Instant :=
  { instant with nanos := instant.nanos - instant.nanos % 1000 }

/-- Whole seconds since the start of 1970. -/
def unixSeconds (instant : Instant) : Int :=
  instant.date.dayNumber * 86400 + instant.second

/-- A number with zeros in front of it up to a width. -/
def padded (width n : Nat) : List Char :=
  let digits := (toString n).toList
  List.replicate (width - digits.length) '0' ++ digits

/-- The written form of a year.  Years that do not fit into four digits carry a
sign. -/
def writeYear (year : Int) : List Char :=
  if 0 ≤ year ∧ year ≤ 9999 then padded 4 year.toNat
  else (if year < 0 then '-' else '+') :: padded 4 year.natAbs

/-- Number of whole seconds that an instant shows, sixty in a leap second. -/
def shownSecond (instant : Instant) : Nat :=
  instant.second % 60 + instant.nanos / 1000000000

/-- The written form of an instant, `fraction` standing behind its second. -/
def writeWith (fraction : List Char) (instant : Instant) : List Char :=
  writeYear instant.date.year ++ '-' :: padded 2 instant.date.month ++
    '-' :: padded 2 instant.date.day ++ 'T' :: padded 2 (instant.second / 3600) ++
    ':' :: padded 2 (instant.second / 60 % 60) ++ ':' :: padded 2 instant.shownSecond ++
    fraction ++ ['Z']

/-- The form that the database keeps: always six digits behind the second. -/
def toMicrosText (instant : Instant) : String :=
  let fraction := '.' :: padded 6 (instant.nanos % 1000000000 / 1000)
  String.ofList (writeWith fraction instant)

/-- The form that the service shows: no digits behind the second, or three, six
or nine. -/
def toText (instant : Instant) : String :=
  let nanos := instant.nanos % 1000000000
  let fraction :=
    if nanos = 0 then []
    else if nanos % 1000000 = 0 then '.' :: padded 3 (nanos / 1000000)
    else if nanos % 1000 = 0 then '.' :: padded 6 (nanos / 1000)
    else '.' :: padded 9 nanos
  String.ofList (writeWith fraction instant)

end Instant
end Time
end BpnDirectory
