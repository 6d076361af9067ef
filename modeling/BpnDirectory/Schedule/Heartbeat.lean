import BpnDirectory.Collection.OrderedMap
import BpnDirectory.Time.Span

namespace BpnDirectory
namespace Schedule

/-!
Heartbeats of background jobs.

A job is due first after its delay and then one period after each of its runs.
It is overdue once a whole period has gone by since it was due, so a run that
takes its time does not raise an alarm.

Nothing keeps these times from lying beyond the last one that the clock can show.  Where
one does, no sum is formed: the job is not tracked, or no job is reported.
-/

open Time (Span)

/-- What is known about the runs of one job. -/
structure Heartbeat where
  period : Span
  /-- When the first run is due. -/
  firstDue : Nat
  /-- When the last run was over. -/
  lastRun : Option Nat
  lastSucceeded : Option Bool
  deriving DecidableEq, Repr

namespace Heartbeat

/-- When the next run is due, if the clock can show it. -/
def nextDue? (beat : Heartbeat) : Option Nat :=
  match beat.lastRun with
  | some run => Time.Clock.after? run beat.period
  | none => some beat.firstDue

/-- Whether a job is overdue at a time, if the clock can show when it will be. -/
def isOverdue? (beat : Heartbeat) (now : Nat) : Option Bool := do
  let due ← beat.nextDue?
  let limit ← Time.Clock.after? due beat.period
  return limit < now

def sinceLastRun (beat : Heartbeat) (now : Nat) : Option Span :=
  beat.lastRun.map fun run => now - run

end Heartbeat

/-- The heartbeats of all jobs that are tracked. -/
abbrev Heartbeats := OrderedMap Heartbeat

namespace Heartbeats

/-- Starts to track a job, if the clock can show when its first run is due. -/
def register? (beats : Heartbeats) (now : Nat) (name : String) (period delay : Span) :
    Option Heartbeats := do
  let firstDue ← Time.Clock.after? now delay
  return beats.insert name ⟨period, firstDue, none, none⟩

/-- Notes that a run is over.  Jobs that are not tracked are passed over. -/
def record (beats : Heartbeats) (now : Nat) (name : String) (succeeded : Bool) : Heartbeats :=
  beats.modify name fun beat =>
    { beat with lastRun := some now, lastSucceeded := some succeeded }

end Heartbeats

/-- The state of a job as it is reported. -/
structure JobStatus where
  name : String
  periodSeconds : Nat
  sinceLastRun : Option Span
  lastSucceeded : Option Bool
  overdue : Bool
  deriving DecidableEq, Repr

def Heartbeat.status? (beat : Heartbeat) (name : String) (now : Nat) : Option JobStatus := do
  let overdue ← beat.isOverdue? now
  return ⟨name, Span.seconds beat.period, beat.sinceLastRun now, beat.lastSucceeded, overdue⟩

/-- The states of all tracked jobs at a time, in the order of their names.  There are none to
report unless it can be told of every job whether it is overdue. -/
def Heartbeats.status? (beats : Heartbeats) (now : Nat) : Option (List JobStatus) :=
  beats.entries.mapM fun entry => entry.2.status? entry.1 now

end Schedule
end BpnDirectory
