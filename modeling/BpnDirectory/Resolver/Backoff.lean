import BpnDirectory.Settings.Basic
import BpnDirectory.Time.Duration

namespace BpnDirectory
namespace Resolver

/-!
Delays before retries, as timers hold them.

A delay is computed in durations.  The base is multiplied by a power of two, the product is cut
at the longest delay, and a random number of whole milliseconds is added, at most as many as the
base has.
-/

open Time (Duration)

/-- A source of random numbers.  It picks one of those from zero up to a limit, and nothing else
is known of it. -/
structure Draw where
  upTo : UInt64 → UInt64
  upTo_le : ∀ limit, upTo limit ≤ limit

/-- The source that always picks the limit. -/
def Draw.greatest : Draw := ⟨id, UInt64.le_refl⟩

structure Backoff where
  attempts : UInt32
  base : Duration
  longest : Duration
  deriving DecidableEq, Repr

namespace Backoff

/-- How often the base is taken before a retry, counted from zero. -/
def factor (attempt : UInt32) : UInt32 := 1 <<< min attempt 16

/-- The delay before a retry without its random part. -/
def exponential (backoff : Backoff) (attempt : UInt32) : Duration :=
  min (backoff.base.times (factor attempt)) backoff.longest

/-- The greatest random part of a delay.  Of the number of milliseconds in the base, 64 bits are
kept. -/
def jitterLimit (backoff : Backoff) : UInt64 := UInt64.ofNat backoff.base.millis

/-- The random part of a delay, in whole milliseconds. -/
def jitter (backoff : Backoff) (draw : Draw) : UInt64 :=
  if 0 < backoff.jitterLimit then draw.upTo backoff.jitterLimit else 0

/-- The delay before a retry, if the sum of its parts is a duration. -/
def delay? (backoff : Backoff) (attempt : UInt32) (draw : Draw) : Option Duration :=
  (backoff.exponential attempt).plus? (.ofMillis (backoff.jitter draw))

def toRetry (backoff : Backoff) : Retry :=
  ⟨backoff.attempts.toNat, backoff.base.span, backoff.longest.span⟩

/-- The policy of a resolver.  The base is any number of milliseconds that has 64 bits. -/
def ofSettings (settings : Settings) : Backoff where
  attempts := settings.storage.retries
  base := .ofMillis settings.storage.backoffMillis
  longest := .ofSeconds 2

end Backoff
end Resolver
end BpnDirectory
