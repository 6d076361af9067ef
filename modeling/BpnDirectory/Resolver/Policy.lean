import BpnDirectory.Time.Span

namespace BpnDirectory
namespace Resolver

/-!
Limits of a resolver and its patience with the store.

A call that fails because the store is out of reach is made again after a delay.
The delay doubles with every retry up to a bound, and a random part of at most
one base delay is added, so that several nodes do not all come back at once.
-/

open Time (Span)

/-- How often and after which delays a call is made again. -/
structure Retry where
  /-- Retries after the first attempt. -/
  attempts : Nat
  base : Span
  longest : Span
  deriving DecidableEq, Repr

namespace Retry

def maxDoublings : Nat := 16

/-- The delay before a retry, counted from zero, without its random part. -/
def exponential (retry : Retry) (attempt : Nat) : Span :=
  min (Span.times retry.base (Nat.pow 2 (min attempt maxDoublings))) retry.longest

/-- The greatest random part of a delay, in whole milliseconds.  It is a number
of 64 bits. -/
def jitterLimit (retry : Retry) : Nat :=
  retry.base / Span.perMilli % 0x10000000000000000

/-- The delay before a retry, with a random part. -/
def delay (retry : Retry) (attempt jitter : Nat) : Span :=
  retry.exponential attempt + Span.ofMillis (min jitter retry.jitterLimit)

end Retry

/-- The limits of a resolver. -/
structure Policy where
  /-- Number of entries that one batch may have. -/
  batchLimit : Nat
  /-- Page size of a listing that names none. -/
  pageSize : UInt64
  /-- Greatest page size. -/
  pageLimit : UInt64
  retry : Retry
  deriving DecidableEq, Repr

end Resolver
end BpnDirectory
