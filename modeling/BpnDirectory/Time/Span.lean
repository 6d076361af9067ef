namespace BpnDirectory
namespace Time

/-!
Spans of time, and the clock that never goes back.

A span is a whole number of nanoseconds.  Spans that are handed to clocks and
timers have at most 64 bits of whole seconds; arithmetic that would exceed that
stays at the longest span.

The clock shows nanoseconds since some beginning, and no more whole seconds than a
signed number of 64 bits has room for.  A span cannot be added to a time if the clock
would never show the sum.
-/

abbrev Span := Nat

namespace Span

def perSecond : Nat := 1000000000

def perMilli : Nat := 1000000

def ofSeconds (n : Nat) : Span := n * perSecond

def ofMillis (n : Nat) : Span := n * perMilli

def longest : Span := 0x10000000000000000 * perSecond - 1

def seconds (span : Span) : Nat := span / perSecond

/-- What a span has beyond its whole seconds. -/
def subNanos (span : Span) : Nat := span % perSecond

def times (span : Span) (n : Nat) : Span := min (span * n) longest

end Span

namespace Clock

/-- The last time that the clock can show. -/
def latest : Nat := 0x8000000000000000 * Span.perSecond - 1

/-- The time that comes some span after another, if the clock can show it. -/
def after? (time : Nat) (span : Span) : Option Nat :=
  if time + span ≤ latest then some (time + span) else none

theorem after?_eq_some_iff {time later : Nat} {span : Span} :
    after? time span = some later ↔ time + span ≤ latest ∧ later = time + span := by
  unfold after?
  split
  · next shown => simp [shown, eq_comm]
  · next beyond => simp [beyond]

theorem after?_eq_none_iff {time : Nat} {span : Span} :
    after? time span = none ↔ latest < time + span := by
  simp [after?]

end Clock
end Time
end BpnDirectory
