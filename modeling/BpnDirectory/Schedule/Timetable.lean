import BpnDirectory.Time.Span

namespace BpnDirectory
namespace Schedule

/-!
Timers of recurring work.

A timer goes off when it is due and then after every period, counted from when it
was due and not from when the work was done.  If several ticks have come by the
time someone looks, none of them is skipped.  Of timers that go off at the same
time, the one that has waited longest goes first.
-/

open Time (Span)

structure Timer (α : Type) where
  work : α
  /-- When it goes off next. -/
  due : Span
  period : Span
  deriving DecidableEq, Repr

namespace Timer

variable {α : Type}

def count (timer : Timer α) (limit : Span) : Nat :=
  if timer.due ≤ limit then (limit - timer.due) / timer.period + 1 else 0

def next (timer : Timer α) : Timer α :=
  { timer with due := timer.due + timer.period }

/-- The timer that goes off first, and the others.  The timers stand in the order in
which they began to wait, and of several that are due at once the first is
taken. -/
def takeEarliest? : List (Timer α) → Option (Timer α × List (Timer α))
  | [] => none
  | timer :: rest =>
    match takeEarliest? rest with
    | none => some (timer, [])
    | some (earliest, others) =>
      if timer.due ≤ earliest.due then some (timer, rest)
      else some (earliest, timer :: others)

/-- The work of up to `ticks` ticks that come up to a time, and the timers after
them.  A timer that has gone off begins to wait anew. -/
def run (limit : Span) : Nat → List (Timer α) → List α × List (Timer α)
  | 0, timers => ([], timers)
  | ticks + 1, timers =>
    match takeEarliest? timers with
    | none => ([], timers)
    | some (timer, others) =>
      if timer.due ≤ limit then
        let (works, timers) := run limit ticks (others ++ [timer.next])
        (timer.work :: works, timers)
      else ([], timers)

end Timer

/-- Timers, in the order in which they began to wait, and the time that they
show. -/
structure Timetable (α : Type) where
  now : Span
  timers : List (Timer α)
  deriving DecidableEq, Repr

namespace Timetable

variable {α : Type}

def empty : Timetable α := ⟨0, []⟩

/-- Sets a timer that goes off after a delay, if the clock can show when that is. -/
def set? (table : Timetable α) (work : α) (delay period : Span) : Option (Timetable α) := do
  let due ← Time.Clock.after? table.now delay
  return { table with timers := table.timers ++ [⟨work, due, period⟩] }

def stop (table : Timetable α) : Timetable α :=
  { table with timers := [] }

/-- Number of ticks of all timers up to a time. -/
def count (table : Timetable α) (limit : Span) : Nat :=
  table.timers.foldr (fun timer others => timer.count limit + others) 0

/-- Lets time go by.  Yields the work that came due, up to and including the new
time. -/
def advance (table : Timetable α) (span : Span) : List α × Timetable α :=
  let now := table.now + span
  let (works, timers) := Timer.run now (table.count now) table.timers
  (works, ⟨now, timers⟩)

end Timetable
end Schedule
end BpnDirectory
