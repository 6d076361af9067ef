import BpnDirectory.Http.Message
import BpnDirectory.Resolver.Reads
import BpnDirectory.Service.Server

namespace BpnDirectory
namespace Service

/-!
How the service is.

The report looks at the store, the cache, the directory version and the background
jobs.  A store out of reach makes the service unhealthy.  Keys that wait for
reconciliation and jobs that are overdue or failed leave it degraded: it answers,
but perhaps not with the latest data.
-/

open Http (Response)
open Schedule (JobStatus)

/-- How well something is, from best to worst. -/
inductive Condition where
  | healthy
  | degraded
  | unhealthy
  deriving DecidableEq, Repr

def Condition.name : Condition → String
  | .healthy => "healthy"
  | .degraded => "degraded"
  | .unhealthy => "unhealthy"

/-- What the report says of one part of the service. -/
structure Finding where
  part : String
  condition : Condition
  /-- How long the part took to answer. -/
  elapsed : Option Time.Span
  complaint : Option String
  details : Option Json.Data

/-- The members of an object that are there. -/
def present (members : List (String × Option Json.Data)) : List (String × Json.Data) :=
  members.filterMap fun member => member.2.map fun value => (member.1, value)

def secondsData (span : Time.Span) : Json.Data := .fixed span 9

def nullable (value : Option Json.Data) : Json.Data := value.getD .null

def Finding.toData (finding : Finding) : Json.Data :=
  .fields (present
    [("name", some (.string finding.part)),
      ("status", some (.string finding.condition.name)),
      ("response_time_ms", finding.elapsed.map fun span => .int (span / Time.Span.perMilli)),
      ("error", finding.complaint.map .string),
      ("details", finding.details)])

/-- The finding about the store. -/
def checkStore : Program Server Finding := do
  let kind ← Program.look fun server => server.node.store.kind
  let before ← Program.look fun server => server.node.ticks
  let outcome ← Server.onNode (Resolver.ping (S := Store.Backend)).run
  let after ← Program.look fun server => server.node.ticks
  let elapsed := some (after - before)
  match outcome with
  | .ok () =>
    pure ⟨"store", .healthy, elapsed, none, some (.fields [("type", .string kind.name)])⟩
  | .error failure => pure ⟨"store", .unhealthy, elapsed, some failure.message, none⟩

def cacheData (cache : Cache) : Json.Data :=
  .fields
    [("enabled", .bool cache.settings.enabled), ("entries", .int cache.size),
      ("capacity", .int cache.settings.capacity), ("hits", .int cache.hits),
      ("misses", .int cache.misses), ("evictions", .int cache.evictions),
      ("invalidations", .int cache.invalidations),
      ("hit_rate", .fixed cache.shownHitRate Cache.ratePlaces)]

/-- The finding about the cache.  Looking at the cache reports its size. -/
def checkCache (server : Server) : Finding × Server :=
  let cache := server.node.cache.report
  (⟨"cache", .healthy, none, none, some (cacheData cache)⟩,
    server.withNode { server.node with cache })

def checkDirectory (server : Server) : Finding :=
  let pending := server.node.pending.length
  let details :=
    [("observed_version", nullable (server.node.observedVersion?.map .int)),
      ("pending_reconciliation", .int pending)]
  if pending = 0 then ⟨"directory", .healthy, none, none, some (.fields details)⟩
  else
    ⟨"directory", .degraded, none, some s!"{pending} keys awaiting reconciliation",
      some (.fields details)⟩

def jobData (job : JobStatus) : Json.Data :=
  .fields
    [("name", .string job.name), ("period_secs", .int job.periodSeconds),
      ("last_run_secs_ago", nullable (job.sinceLastRun.map secondsData)),
      ("last_succeeded", nullable (job.lastSucceeded.map .bool)),
      ("overdue", .bool job.overdue)]

/-- What is wrong with jobs.  Jobs that are overdue are named before those that
failed. -/
def jobComplaint (jobs : List JobStatus) : Option String :=
  let overdue := jobs.filter fun job => job.overdue
  let failing := jobs.filter fun job => job.lastSucceeded == some false
  let names (jobs : List JobStatus) : String := ", ".intercalate (jobs.map JobStatus.name)
  if !overdue.isEmpty then some s!"Jobs overdue: {names overdue}"
  else if !failing.isEmpty then some s!"Last run failed: {names failing}"
  else none

def checkJobs (jobs : List JobStatus) : Finding :=
  let complaint := jobComplaint jobs
  ⟨"background_jobs", if complaint.isSome then .degraded else .healthy, none, complaint,
    some (.fields [("jobs", .list (jobs.map jobData))])⟩

/-- The condition of the service as a whole: that of the part that is worst off. -/
def overall (findings : List Finding) : Condition :=
  if findings.any fun finding => finding.condition == .unhealthy then .unhealthy
  else if findings.any fun finding => finding.condition == .degraded then .degraded
  else .healthy

/-- A report as a response.  Only an unhealthy service answers with an error. -/
def reportResponse (uptime : Time.Span) (findings : List Finding) : Response :=
  let condition := overall findings
  let message :=
    if condition = .healthy then none
    else some (Json.Data.string "One or more components are unhealthy")
  .data (if condition = .unhealthy then 503 else 200) (.fields (present
    [("status", some (.string condition.name)),
      ("version", some (.string Settings.serviceVersion)),
      ("uptime_seconds", some (secondsData uptime)),
      ("checks", some (.list (findings.map Finding.toData))),
      ("message", message)]))

/-- Reports how the service is.  Where the states of the jobs cannot be told, the report breaks
down. -/
def health : Program Server Response := do
  let store ← checkStore
  let cache ← Program.act checkCache
  let directory ← Program.look checkDirectory
  let jobs? ← Program.look Server.jobStatus?
  let uptime ← Program.look fun server => server.node.ticks
  match jobs? with
  | some jobs => pure (reportResponse uptime [store, cache, directory, checkJobs jobs])
  | none => pure .missing

def shortAnswer (status : String) : Response :=
  .data 200 (.fields [("status", .string status),
    ("version", .string Settings.serviceVersion)])

/-- Says whether the service can do its work, which it cannot without its store. -/
def readiness : Program Server Response := do
  match ← Server.onNode (Resolver.ping (S := Store.Backend)).run with
  | .ok () => pure (shortAnswer "ready")
  | .error _ => pure (.bare 503)

def metrics : Program Server Response := do
  let samples ← Program.look fun server => server.node.samples
  pure (.text 200 "text/plain; version=0.0.4" (Telemetry.expose samples))

end Service
end BpnDirectory
