import BpnDirectory.Time.Span

namespace BpnDirectory
namespace Time

/-!
Spans as timers hold them.

A timer keeps whole seconds in 64 bits and the nanoseconds beyond them in 32 bits.  Products and
sums are made part by part, with a carry from the nanoseconds to the seconds, and there is no
result if the seconds overflow.  A product that may not fail is the longest duration where there
is none.
-/

/-- A span in two parts. -/
structure Duration where
  /-- Whole seconds. -/
  seconds : UInt64
  /-- Nanoseconds beyond the whole seconds. -/
  nanos : UInt32
  nanos_lt : nanos.toNat < Span.perSecond
  deriving DecidableEq, Repr

namespace Duration

/-- A number as whole seconds, if 64 bits are enough for it. -/
def seconds? (n : Nat) : Option UInt64 :=
  if fits : n < UInt64.size then some (UInt64.ofNatLT n fits) else none

/-- Whole seconds, and of some nanoseconds those that make up no second. -/
def ofParts (seconds : UInt64) (nanos : Nat) : Duration where
  seconds
  nanos := UInt32.ofNat (nanos % Span.perSecond)
  nanos_lt := Nat.lt_of_le_of_lt (Nat.mod_le _ _) (Nat.mod_lt nanos (by decide))

def longest : Duration := ⟨0xffffffffffffffff, 999999999, by decide⟩

def ofSeconds (seconds : UInt64) : Duration := ofParts seconds 0

def ofMillis (millis : UInt64) : Duration :=
  ofParts (millis / 1000) ((millis % 1000).toNat * Span.perMilli)

/-- The whole milliseconds of a duration.  They may have more than 64 bits. -/
def millis (duration : Duration) : Nat :=
  duration.seconds.toNat * 1000 + duration.nanos.toNat / Span.perMilli

/-- Seconds and nanoseconds as a duration, if they are one.  What the nanoseconds have of whole
seconds is carried over. -/
def carried? (seconds nanos : Nat) : Option Duration := do
  let whole ← seconds? seconds
  let all ← seconds? (whole.toNat + nanos / Span.perSecond)
  pure (ofParts all nanos)

/-- A duration taken several times, if that is a duration. -/
def times? (duration : Duration) (n : UInt32) : Option Duration :=
  carried? (duration.seconds.toNat * n.toNat) (duration.nanos.toUInt64 * n.toUInt64).toNat

/-- A duration taken several times, but never more than the longest one. -/
def times (duration : Duration) (n : UInt32) : Duration := (duration.times? n).getD longest

/-- The sum of two durations, if that is a duration. -/
def plus? (first second : Duration) : Option Duration :=
  carried? (first.seconds.toNat + second.seconds.toNat) (first.nanos + second.nanos).toNat

/-- The seconds decide first. -/
instance : LE Duration where
  le first second :=
    first.seconds < second.seconds ∨
      first.seconds = second.seconds ∧ first.nanos ≤ second.nanos

instance : DecidableLE Duration := fun first second =>
  inferInstanceAs (Decidable (first.seconds < second.seconds ∨
    first.seconds = second.seconds ∧ first.nanos ≤ second.nanos))

instance : Min Duration := minOfLe

def span (duration : Duration) : Span :=
  Span.ofSeconds duration.seconds.toNat + duration.nanos.toNat

end Duration
end Time
end BpnDirectory
