import BpnDirectory.Resolver.Reads
import BpnDirectory.Resolver.Upkeep
import BpnDirectory.Service.Server

namespace BpnDirectory
namespace Service

/-!
Background jobs.

The service looks for changes made elsewhere, takes up keys that wait for
reconciliation, and asks its store whether it can be reached.  Every run leaves a
heartbeat; a run that had nothing to reconcile is not counted.
-/

open Time (Span)

def healthCheckPeriod : Span := Span.ofSeconds 300

namespace Job

/-- All jobs, in the order in which they are started. -/
def all : List Job := [.directoryPoll, .reconcile, .healthCheck]

def period (settings : JobSettings) : Job → Span
  | .directoryPoll => Span.ofSeconds settings.pollSeconds.toNat
  | .reconcile => Span.ofSeconds settings.reconcileSeconds.toNat
  | .healthCheck => healthCheckPeriod

/-- The delay before the first run of a job.  Without a setting the first poll comes
after a random number of seconds, so that replicas do not poll all at once. -/
def delay (settings : JobSettings) (randomSeconds : Nat) : Job → Span
  | .directoryPoll =>
    match settings.pollDelaySeconds with
    | some seconds => Span.ofSeconds seconds.toNat
    | none => Span.ofSeconds randomSeconds
  | .reconcile | .healthCheck => 0

/-- Counts a run and leaves its heartbeat. -/
def conclude {α : Type} (job : Job) (outcome : Except Failure α) : Program Server Unit := do
  let succeeded := outcome.isOk
  Server.record (.job job.name (if succeeded then "success" else "failure"))
  Program.change (Server.beat job.name succeeded)

/-- One run of a job. -/
def run (policy : Resolver.Policy) (job : Job) : Program Server Unit := do
  match job with
  | .directoryPoll =>
    job.conclude (← Server.onNode (Resolver.poll (S := Store.Backend) policy).run)
  | .reconcile =>
    let pending ← Program.look fun server => server.node.pending
    if pending.isEmpty then Program.change (Server.beat job.name true)
    else job.conclude (← Server.onNode (Resolver.reconcile (S := Store.Backend)).run)
  | .healthCheck =>
    job.conclude (← Server.onNode (Resolver.ping (S := Store.Backend)).run)

def runAll (policy : Resolver.Policy) : List Job → Program Server Unit
  | [] => pure ()
  | job :: rest => do
    job.run policy
    runAll policy rest

end Job

/-- Starts to track a job and sets its timer.  A job whose first run lies beyond the clock
breaks down before it is tracked, and the others do not notice. -/
def startJob (settings : JobSettings) (randomSeconds : Nat) (server : Server) (job : Job) :
    Server :=
  let period := job.period settings
  let delay := job.delay settings randomSeconds
  match server.track? job.name period delay with
  | none => server
  | some tracked =>
    match server.timetable.set? job delay period with
    | none => tracked
    | some timetable => { tracked with timetable }

/-- Lets the timers go on and runs the jobs that come due. -/
def advance (setup : Setup) (span : Span) : Program Server Unit := do
  let due ← Program.act fun server =>
    let (due, timetable) := server.timetable.advance span
    (due, { server with timetable })
  Job.runAll setup.policy due

/-- Starts all jobs and runs those that are due at once. -/
def startJobs (setup : Setup) (randomSeconds : Nat) : Program Server Unit := do
  Program.change fun server =>
    Job.all.foldl (startJob setup.settings.jobs randomSeconds) server
  advance setup 0

/-- Stops all jobs.  Their heartbeats stay. -/
def stopJobs (server : Server) : Server :=
  { server with timetable := server.timetable.stop }

end Service
end BpnDirectory
